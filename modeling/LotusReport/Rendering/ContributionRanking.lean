import LotusReport.Rendering.Figures
import LotusReport.Relational.Intervals
import LotusReport.Relational.Ranking

/-!
# The ranking of contributors

The contributors of a period, ranked by the size of their effect. Ten are
presented. Where all of them have one sign, the weakest one gives its seat to
the next row of another sign; that row may be one without an effect.
-/

namespace LotusReport.Rendering

open Encoding Decimals Relational Transactions

section Model

/-- A row of the ranking; its value is not published. -/
structure ContributorRow where
  value : Decimal
  name : String
  contributionPct : String
  averageWeightPct : Option String
  returnPct : Option String
deriving DecidableEq

/-- A published row. -/
structure PublishedContributor where
  name : String
  contributionPct : String
  averageWeightPct : Option String
  returnPct : Option String
deriving DecidableEq

/-- `_published`. -/
def ContributorRow.published (row : ContributorRow) : PublishedContributor :=
  ⟨row.name, row.contributionPct, row.averageWeightPct, row.returnPct⟩

/-- The number that a row contributes. -/
def ContributorRow.effect (row : ContributorRow) : ℚ := row.value.value

structure RankingMethodology where
  basis : Option String
  weightingScheme : Option String
  residualAllocationApplied : Option Bool
  residualAllocationBasis : Option String
deriving DecidableEq

structure Ranking where
  period : String
  methodology : RankingMethodology
  totalPortfolioReturnPct : Option String
  explainedContributionPct : Option String
  unexplainedResidualPct : Option String
  presentedContributionPct : String
  presentedCount : Nat
  availableCount : Nat
  unusableRowCount : Int
  contributors : List PublishedContributor
deriving DecidableEq

/-- What `build_contribution_ranking` returns. -/
inductive RankingOutcome where
  | unavailable
  | unreadable (period : String) (methodology : RankingMethodology) (unusableRowCount : Nat)
  | empty (period : String) (methodology : RankingMethodology)
  | ready (ranking : Ranking)
deriving DecidableEq

/-- `PRESENTED_CONTRIBUTOR_LIMIT`. -/
def presentedContributorLimit : Nat := 10

variable (digitOf : Char → Option (Fin 10)) (add : Addition)

/-- `_methodology`. -/
def rankingMethodology (contribution : Fields) : RankingMethodology :=
  let source := asDict (get contribution "methodology")
  { basis := textOrNone (get source "basis")
    weightingScheme := textOrNone (get source "weighting_scheme")
    residualAllocationApplied := match get source "residual_allocation_applied" with
      | .bool b => some b
      | _ => none
    residualAllocationBasis := textOrNone (get source "residual_allocation_basis") }

/-- The row of a contributor with a usable value. -/
def usableRow (names : List (String × String)) (entry : Json) : Option ContributorRow :=
  (dict? entry).bind fun fields =>
    (contributionDecimal digitOf (get fields "total_contribution_pct")).map fun value =>
      { value := value
        name := readableName names (text (get fields "security_id"))
        contributionPct := twoPlaces value
        averageWeightPct :=
          (contributionDecimal digitOf (get fields "average_weight_pct")).map twoPlaces
        returnPct := (contributionDecimal digitOf (get fields "total_return_pct")).map twoPlaces }

/-- The usable rows, in the order in which they were supplied. -/
def usableRows (snapshot : Fields) (entries : List Json) : List ContributorRow :=
  entries.filterMap (usableRow digitOf (namedSecurities snapshot))

/-- The key that rows are sorted by: the greater effect first, then the name. -/
def ContributorRow.rank (row : ContributorRow) : ℚ ×ₗ String := toLex (-row.value.magnitude, row.name)

/-- `_ranked_contributors`. -/
def rankedContributors (snapshot : Fields) (entries : List Json) :
    List ContributorRow :=
  ranked ContributorRow.rank (usableRows digitOf snapshot entries)

/-- `sign_of`. -/
def signOf (row : ContributorRow) : Int :=
  if 0 < row.effect then 1 else if row.effect < 0 then -1 else 0

/-- `_presented_with_both_signs`. -/
def presentedWithBothSigns (rows : List ContributorRow) : List ContributorRow :=
  let presented := rows.take presentedContributorLimit
  if rows.length ≤ presentedContributorLimit then presented
  else
    let presentedSigns := (presented.map signOf).dedup
    if 1 < presentedSigns.length then presented
    else
      match (rows.drop presentedContributorLimit).find? (fun row => signOf row ∉ presentedSigns) with
      | none => presented
      | some missing => presented.dropLast ++ [missing]

/-- The captured contribution section. -/
def contributionSection (snapshot : Fields) : Fields :=
  let contribution := asDict (get (asDict (get snapshot "performance")) "contribution")
  if contribution = [] then
    asDict (get (asDict (get (asDict (get snapshot "keyFigures")) "performance")) "contribution")
  else contribution

/-- `total_return - explained`, where both are stated. -/
def residualOf (total explained : Option Decimal) : Except Signal (Option Decimal) :=
  match total, explained with
  | some total, some explained => (add total explained.negate).map some
  | _, _ => .ok none

/-- The posture where no row is usable. -/
def emptyOutcome (period : String) (methodology : RankingMethodology) (suppliedRows : List Json) :
    RankingOutcome :=
  if suppliedRows = [] then .empty period methodology
  else .unreadable period methodology suppliedRows.length

/-- `build_contribution_ranking`. -/
def buildContributionRanking (snapshot : Fields) :
    Except BuilderError RankingOutcome :=
  let contribution := contributionSection snapshot
  if get contribution "status" ≠ .str "present" then .ok .unavailable
  else
    match iterated (get contribution "top_position_contributors") with
    | none => .error .typeError
    | some entries =>
        let suppliedRows := entries.filter Json.truthy
        let rows := rankedContributors digitOf snapshot entries
        let methodology := rankingMethodology contribution
        let period := text (get contribution "period")
        if rows = [] then .ok (emptyOutcome period methodology suppliedRows)
        else
          let presented := presentedWithBothSigns rows
          let totalReturn := contributionDecimal digitOf (get contribution "total_portfolio_return_pct")
          let explained := contributionDecimal digitOf (get contribution "total_contribution_pct")
          match add.sum (presented.map (·.value)), residualOf add totalReturn explained with
          | .error signal, _ | _, .error signal => .error (.signal signal)
          | .ok presentedTotal, .ok residual => .ok (.ready {
              period := period
              methodology := methodology
              totalPortfolioReturnPct := totalReturn.map twoPlaces
              explainedContributionPct := explained.map twoPlaces
              unexplainedResidualPct := residual.map twoPlaces
              presentedContributionPct := twoPlaces presentedTotal
              presentedCount := presented.length
              availableCount := rows.length
              unusableRowCount := suppliedRows.length - rows.length
              contributors := presented.map ContributorRow.published })

end Model

section Purpose

variable (digitOf : Char → Option (Fin 10))

/-- The largest row of the strict sign that none of the rows has, where they all have the other. -/
def missingSign (presented rows : List ContributorRow) : Option ContributorRow :=
  if presented.all fun row => 0 < row.effect then rows.find? fun row => row.effect < 0
  else if presented.all fun row => row.effect < 0 then rows.find? fun row => 0 < row.effect
  else none

/-- The rows that are to be presented: the ten largest, or nine of them with the largest row of
the missing sign. -/
def intendedRows (rows : List ContributorRow) : List ContributorRow :=
  let largest := rows.take 10
  match missingSign largest rows with
  | none => largest
  | some row => largest.dropLast ++ [row]

/-- The numbers of an outcome agree with the supplied, the unusable and the presented rows. -/
def RankingOutcome.Agrees (suppliedRows unusableRows : List Json)
    (rows presented : List ContributorRow) : RankingOutcome → Prop
  | .unavailable => False
  | .unreadable _ _ unusableRowCount =>
      rows = [] ∧ suppliedRows ≠ [] ∧ unusableRowCount = unusableRows.length
  | .empty _ _ => suppliedRows = []
  | .ready ranking =>
      ranking.contributors = presented.map ContributorRow.published ∧
      ranking.presentedCount = presented.length ∧ ranking.availableCount = rows.length ∧
      ranking.unusableRowCount = unusableRows.length ∧
      ∃ total : Decimal, total.value = (presented.map ContributorRow.effect).sum ∧
        ranking.presentedContributionPct = twoPlaces total

variable (add : Addition) (snapshot : Fields) (entries : List Json)

/-- The sums of a ranking are exact. -/
structure ExactSums : Prop where
  presented :
    let values := (presentedWithBothSigns (rankedContributors digitOf snapshot entries)).map (·.value)
    add.sum values = Addition.exact.sum values
  residual : ∀ total explained : Decimal,
    contributionDecimal digitOf
      (get (contributionSection snapshot) "total_portfolio_return_pct") = some total →
    contributionDecimal digitOf
      (get (contributionSection snapshot) "total_contribution_pct") = some explained →
    add total explained.negate = Addition.exact total explained.negate

/-- A ranking of supplied entries is not misleading. -/
structure Honest : Prop where
  /-- The rows are the usable ones, the greatest effect first and then by name. -/
  sorted : (rankedContributors digitOf snapshot entries).Perm (usableRows digitOf snapshot entries) ∧
    (rankedContributors digitOf snapshot entries).Pairwise fun a b => a.rank ≤ b.rank
  intended : presentedWithBothSigns (rankedContributors digitOf snapshot entries) =
    intendedRows (rankedContributors digitOf snapshot entries)
  /-- No row without an effect takes a seat from one of the ten largest. -/
  noZero : ∀ row ∈ presentedWithBothSigns (rankedContributors digitOf snapshot entries),
    row ∉ (rankedContributors digitOf snapshot entries).take 10 → row.effect ≠ 0
  bothSigns : (∃ row ∈ usableRows digitOf snapshot entries, 0 < row.effect) →
    (∃ row ∈ usableRows digitOf snapshot entries, row.effect < 0) →
      (∃ row ∈ presentedWithBothSigns (rankedContributors digitOf snapshot entries), 0 < row.effect) ∧
        ∃ row ∈ presentedWithBothSigns (rankedContributors digitOf snapshot entries), row.effect < 0
  /-- The builder returns, and its numbers agree. -/
  numbers : ∃ outcome, buildContributionRanking digitOf add snapshot = .ok outcome ∧
    outcome.Agrees (entries.filter Json.truthy)
      ((entries.filter Json.truthy).filter fun entry =>
        usableRow digitOf (namedSecurities snapshot) entry = none)
      (rankedContributors digitOf snapshot entries)
      (presentedWithBothSigns (rankedContributors digitOf snapshot entries))

/-- At least ten rows have an effect, all of one sign, and some row has none. -/
def ZeroSeated (rows : List ContributorRow) : Prop :=
  (∃ row ∈ rows, row.effect = 0) ∧ 10 ≤ rows.countP (fun row => row.effect ≠ 0) ∧
    ((∀ row ∈ rows, 0 ≤ row.effect) ∨ ∀ row ∈ rows, row.effect ≤ 0)

end Purpose

section Signs

variable {row : ContributorRow} {rows : List ContributorRow}

theorem signOf_eq_one_iff : signOf row = 1 ↔ 0 < row.effect := by
  unfold signOf
  split
  · rename_i h
    exact iff_of_true rfl h
  · rename_i h
    split <;> simp [h]

theorem signOf_eq_neg_one_iff : signOf row = -1 ↔ row.effect < 0 := by
  unfold signOf
  split
  · rename_i h
    exact iff_of_false (by decide) (not_lt.mpr h.le)
  · split
    · rename_i h
      exact iff_of_true rfl h
    · rename_i h
      exact iff_of_false (by decide) h

/-- The rows stand with the greater effect first. -/
def Descending (rows : List ContributorRow) : Prop :=
  rows.Pairwise fun a b => |b.effect| ≤ |a.effect|

theorem descending_ranked (rows : List ContributorRow) :
    Descending (ranked ContributorRow.rank rows) := by
  refine (pairwise_le_ranked ContributorRow.rank rows).imp ?_
  intro a b hab
  have hle : -a.value.magnitude ≤ -b.value.magnitude := (Prod.Lex.toLex_le_toLex'.mp hab).1
  rw [neg_le_neg_iff, magnitude_eq_abs, magnitude_eq_abs] at hle
  exact hle

/-- Behind a row without an effect no row has one. -/
theorem Descending.zero_last (h : Descending rows) :
    rows.Pairwise fun a b => decide (b.effect ≠ 0) = true → decide (a.effect ≠ 0) = true := by
  refine h.imp ?_
  intro a b hab hb
  simp only [decide_eq_true_eq] at hb ⊢
  intro ha
  rw [ha, abs_zero, abs_nonpos_iff] at hab
  exact hb hab

/-- The rows with an effect stand before a row without one. -/
theorem Descending.mem_take {n : Nat} {zero : ContributorRow} (h : Descending rows)
    (hzero : zero ∈ rows.take n) (heffect : zero.effect = 0) (hrow : row ∈ rows)
    (hne : row.effect ≠ 0) : row ∈ rows.take n := by
  rw [← List.take_append_drop n rows] at h
  rw [← List.take_append_drop n rows, List.mem_append] at hrow
  refine hrow.resolve_right fun hbehind => hne ?_
  have hle := (List.pairwise_append.mp h).2.2 zero hzero row hbehind
  rw [heffect, abs_zero, abs_nonpos_iff] at hle
  exact hle

theorem signOf_eq_zero_iff : signOf row = 0 ↔ row.effect = 0 := by
  unfold signOf
  split
  · rename_i h
    exact iff_of_false (by decide) h.ne'
  · rename_i hpos
    split
    · rename_i h
      exact iff_of_false (by decide) h.ne
    · rename_i hneg
      exact iff_of_true rfl (le_antisymm (not_lt.mp hpos) (not_lt.mp hneg))

theorem signOf_eq_zero_of {sign : Int} (hsign : sign = 1 ∨ sign = -1) (h : signOf row ≠ sign)
    (h' : signOf row ≠ -sign) : signOf row = 0 := by
  have hcases : signOf row = 1 ∨ signOf row = -1 ∨ signOf row = 0 := by
    unfold signOf
    split
    · exact Or.inl rfl
    · split
      · exact Or.inr (Or.inl rfl)
      · exact Or.inr (Or.inr rfl)
  omega

/-- The first row of another sign is of the opposite sign where there is such a row. -/
theorem Descending.find?_other {sign : Int} (hsign : sign = 1 ∨ sign = -1) (h : Descending rows) :
    rows.find? (fun row => signOf row ≠ sign) =
      (rows.find? fun row => signOf row = -sign).or (rows.find? fun row => signOf row = 0) := by
  induction rows with
  | nil => rfl
  | cons a rows ih =>
      obtain ⟨hfirst, hrest⟩ := List.pairwise_cons.mp h
      by_cases hsame : signOf a = sign
      · have hopposite : signOf a ≠ -sign := by omega
        have hnonzero : signOf a ≠ 0 := by omega
        rw [List.find?_cons_of_neg (by simp [hsame]), List.find?_cons_of_neg (by simp [hopposite]),
          List.find?_cons_of_neg (by simp [hnonzero])]
        exact ih hrest
      · by_cases hopposite : signOf a = -sign
        · rw [List.find?_cons_of_pos (by simp [hsame]), List.find?_cons_of_pos (by simp [hopposite])]
          rfl
        · have hzero := signOf_eq_zero_of hsign hsame hopposite
          -- behind a row without an effect there is none with one
          have hnone : (a :: rows).find? (fun row => signOf row = -sign) = none := by
            apply List.find?_eq_none.mpr
            intro b hb
            have hb0 : signOf b = 0 := by
              rcases List.mem_cons.mp hb with rfl | hb
              · exact hzero
              · have hle := hfirst b hb
                rw [signOf_eq_zero_iff.mp hzero, abs_zero, abs_nonpos_iff] at hle
                exact signOf_eq_zero_iff.mpr hle
            rw [hb0]
            simp only [decide_eq_true_eq]
            omega
          rw [hnone, List.find?_cons_of_pos (by simp [hsame]), List.find?_cons_of_pos (by simp [hzero])]
          rfl

end Signs

section Presented

variable {rows : List ContributorRow}

theorem mem_of_presented {row : ContributorRow} (h : row ∈ presentedWithBothSigns rows) :
    row ∈ rows := by
  unfold presentedWithBothSigns at h
  dsimp only at h
  split at h
  · exact List.mem_of_mem_take h
  · split at h
    · exact List.mem_of_mem_take h
    · split at h
      · exact List.mem_of_mem_take h
      · rename_i missing hmissing
        rcases List.mem_append.mp h with hkept | hadded
        · exact List.mem_of_mem_take ((List.dropLast_sublist _).subset hkept)
        · rw [List.mem_singleton.mp hadded]
          exact List.mem_of_mem_drop (List.mem_of_find?_eq_some hmissing)

theorem dedup_signs {sign : Int} (hne : rows ≠ []) (h : ∀ row ∈ rows, signOf row = sign) :
    (rows.map signOf).dedup = [sign] := by
  have hmap : rows.map signOf = List.replicate rows.length sign := by
    rw [List.eq_replicate_iff]
    constructor
    · exact List.length_map _
    · intro s hs
      obtain ⟨row, hrow, rfl⟩ := List.mem_map.mp hs
      exact h row hrow
  rw [hmap]
  exact List.replicate_dedup (by simpa using hne)

theorem presented_of_mixed {a b : ContributorRow} (ha : a ∈ rows.take 10) (hb : b ∈ rows.take 10)
    (h : signOf a ≠ signOf b) : presentedWithBothSigns rows = rows.take 10 := by
  unfold presentedWithBothSigns presentedContributorLimit
  dsimp only
  split
  · rfl
  · have hmany : 1 < ((rows.take 10).map signOf).dedup.length := by
      by_contra hfew
      have hma : signOf a ∈ ((rows.take 10).map signOf).dedup :=
        List.mem_dedup.mpr (List.mem_map_of_mem ha)
      have hmb : signOf b ∈ ((rows.take 10).map signOf).dedup :=
        List.mem_dedup.mpr (List.mem_map_of_mem hb)
      match hsigns : ((rows.take 10).map signOf).dedup with
      | [] =>
          rw [hsigns] at hma
          cases hma
      | [sign] =>
          rw [hsigns, List.mem_singleton] at hma hmb
          exact h (hma.trans hmb.symm)
      | _ :: _ :: _ =>
          rw [hsigns] at hfew
          simp at hfew
    rw [if_pos hmany]

/-- Ten rows of one sign give a seat to the first of the others that has another sign. -/
theorem presented_of_one_sign {sign : Int} (hlong : 10 < rows.length)
    (h : ∀ row ∈ rows.take 10, signOf row = sign) : presentedWithBothSigns rows =
      match (rows.drop 10).find? fun row => signOf row ≠ sign with
      | none => rows.take 10
      | some missing => (rows.take 10).dropLast ++ [missing] := by
  have hne : rows.take 10 ≠ [] := by
    intro hnil
    have hlength := congrArg List.length hnil
    rw [List.length_take, List.length_nil] at hlength
    omega
  have hone : ¬ 1 < [sign].length := by simp
  unfold presentedWithBothSigns presentedContributorLimit
  dsimp only
  rw [if_neg (Nat.not_le.mpr hlong), dedup_signs hne h, if_neg hone]
  simp only [List.mem_singleton]

theorem find?_eq_drop {p : ContributorRow → Bool} (h : ∀ row ∈ rows.take 10, p row = false) :
    rows.find? p = (rows.drop 10).find? p := by
  have hnone : (rows.take 10).find? p = none :=
    List.find?_eq_none.mpr fun row hrow => by simp [h row hrow]
  conv_lhs => rw [← List.take_append_drop 10 rows]
  rw [List.find?_append, hnone, Option.none_or]

theorem find?_negative (rows : List ContributorRow) :
    rows.find? (fun row => row.effect < 0) = rows.find? fun row => signOf row = -1 := by
  simp only [signOf_eq_neg_one_iff]

theorem find?_positive (rows : List ContributorRow) :
    rows.find? (fun row => 0 < row.effect) = rows.find? fun row => signOf row = 1 := by
  simp only [signOf_eq_one_iff]

/-- The missing sign of rows that all have one stands behind them, if anywhere. -/
theorem missingSign_of_one_sign {sign : Int} (hsign : sign = 1 ∨ sign = -1)
    (hne : rows.take 10 ≠ []) (h : ∀ row ∈ rows.take 10, signOf row = sign) :
    missingSign (rows.take 10) rows = (rows.drop 10).find? fun row => signOf row = -sign := by
  have hdrop : rows.find? (fun row => signOf row = -sign) =
      (rows.drop 10).find? fun row => signOf row = -sign := by
    apply find?_eq_drop
    intro row hrow
    rw [h row hrow, decide_eq_false_iff_not]
    omega
  unfold missingSign
  rcases hsign with rfl | rfl
  · have hall : ((rows.take 10).all fun row => 0 < row.effect) = true := by
      rw [List.all_eq_true]
      intro row hrow
      exact decide_eq_true (signOf_eq_one_iff.mp (h row hrow))
    rw [if_pos hall, find?_negative, hdrop]
  · have hall : ((rows.take 10).all fun row => row.effect < 0) = true := by
      rw [List.all_eq_true]
      intro row hrow
      exact decide_eq_true (signOf_eq_neg_one_iff.mp (h row hrow))
    have hnot : ¬ ((rows.take 10).all fun row => 0 < row.effect) = true := by
      rw [List.all_eq_true]
      intro hpos
      obtain ⟨row, hrow⟩ := List.exists_mem_of_ne_nil _ hne
      have hsign := signOf_eq_one_iff.mpr (of_decide_eq_true (hpos row hrow))
      rw [h row hrow] at hsign
      cases hsign
    rw [if_neg hnot, if_pos hall, find?_positive]
    exact hdrop

/-- Rows that do not all have one strict sign miss none. -/
theorem missingSign_of_mixed (h : ∀ sign : Int, sign = 1 ∨ sign = -1 →
    ¬ ∀ row ∈ rows.take 10, signOf row = sign) : missingSign (rows.take 10) rows = none := by
  have hpos : ¬ ((rows.take 10).all fun row => 0 < row.effect) = true := by
    rw [List.all_eq_true]
    intro hall
    exact h 1 (Or.inl rfl) fun row hrow => signOf_eq_one_iff.mpr (of_decide_eq_true (hall row hrow))
  have hneg : ¬ ((rows.take 10).all fun row => row.effect < 0) = true := by
    rw [List.all_eq_true]
    intro hall
    exact h (-1) (Or.inr rfl) fun row hrow =>
      signOf_eq_neg_one_iff.mpr (of_decide_eq_true (hall row hrow))
  unfold missingSign
  rw [if_neg hpos, if_neg hneg]

/-- What it takes for a row without an effect to be seated. -/
structure Displaces (sign : Int) (rows : List ContributorRow) : Prop where
  strict : sign = 1 ∨ sign = -1
  long : 10 < rows.length
  oneSign : ∀ row ∈ rows.take 10, signOf row = sign
  unopposed : (rows.drop 10).find? (fun row => signOf row = -sign) = none
  zero : ∃ zero, (rows.drop 10).find? (fun row => signOf row = 0) = some zero

/-- The condition on the usable rows, read off their ranking. -/
theorem zeroSeated_iff (h : Descending rows) : ZeroSeated rows ↔ ∃ sign, Displaces sign rows := by
  constructor
  · rintro ⟨⟨zero, hzero, heffect⟩, hcount, hsigns⟩
    have hfilter := filter_eq_take h.zero_last
    have hnonzero : ∀ row ∈ rows.take 10, row.effect ≠ 0 := by
      intro row hrow
      have hmem : row ∈ rows.filter fun row => decide (row.effect ≠ 0) := by
        rw [hfilter]
        exact (List.take_sublist_take_left hcount).subset hrow
      exact of_decide_eq_true (List.mem_filter.mp hmem).2
    have hlong : 10 < rows.length := by
      have hpos : 0 < rows.countP fun row => ¬ decide (row.effect ≠ 0) :=
        List.countP_pos_iff.mpr ⟨zero, hzero, by simp [heffect]⟩
      have hlength := rows.length_eq_countP_add_countP fun row => decide (row.effect ≠ 0)
      omega
    have hbehind : zero ∈ rows.drop 10 := by
      rw [← List.take_append_drop 10 rows, List.mem_append] at hzero
      exact hzero.resolve_left fun hmem => hnonzero zero hmem heffect
    have hfound : ∃ zero, (rows.drop 10).find? (fun row => signOf row = 0) = some zero := by
      rw [← Option.isSome_iff_exists, List.find?_isSome]
      exact ⟨zero, hbehind, decide_eq_true (signOf_eq_zero_iff.mpr heffect)⟩
    rcases hsigns with hpos | hneg
    · refine ⟨1, Or.inl rfl, hlong, ?_, ?_, hfound⟩
      · intro row hrow
        rw [signOf_eq_one_iff]
        exact lt_of_le_of_ne (hpos row (List.mem_of_mem_take hrow)) (hnonzero row hrow).symm
      · apply List.find?_eq_none.mpr
        intro row hrow hsign
        have hlt := signOf_eq_neg_one_iff.mp (of_decide_eq_true hsign)
        exact absurd (hpos row (List.mem_of_mem_drop hrow)) (not_le.mpr hlt)
    · refine ⟨-1, Or.inr rfl, hlong, ?_, ?_, hfound⟩
      · intro row hrow
        rw [signOf_eq_neg_one_iff]
        exact lt_of_le_of_ne (hneg row (List.mem_of_mem_take hrow)) (hnonzero row hrow)
      · apply List.find?_eq_none.mpr
        intro row hrow hsign
        have hlt := signOf_eq_one_iff.mp (of_decide_eq_true hsign)
        exact absurd (hneg row (List.mem_of_mem_drop hrow)) (not_le.mpr hlt)
  · rintro ⟨sign, hstrict, hlong, hone, hunopposed, zero, hzero⟩
    have hmem := List.mem_of_find?_eq_some hzero
    have hsign := List.find?_some hzero
    have heffect : zero.effect = 0 := signOf_eq_zero_iff.mp (of_decide_eq_true hsign)
    have hopposite : ∀ row ∈ rows, signOf row ≠ -sign := by
      intro row hrow
      rw [← List.take_append_drop 10 rows, List.mem_append] at hrow
      rcases hrow with hrow | hrow
      · rw [hone row hrow]
        omega
      · intro hsign
        exact List.find?_eq_none.mp hunopposed row hrow (decide_eq_true hsign)
    refine ⟨⟨zero, List.mem_of_mem_drop hmem, heffect⟩, ?_, ?_⟩
    · have hall : (rows.take 10).countP (fun row => decide (row.effect ≠ 0)) = 10 := by
        have hlength : (rows.take 10).length = 10 := by
          rw [List.length_take]
          omega
        refine Eq.trans (List.countP_eq_length.mpr ?_) hlength
        intro row hrow
        rw [decide_eq_true_eq]
        intro hzero
        have hsign := hone row hrow
        rw [signOf_eq_zero_iff.mpr hzero] at hsign
        omega
      calc
        10 = (rows.take 10).countP fun row => decide (row.effect ≠ 0) := hall.symm
        _ ≤ rows.countP fun row => decide (row.effect ≠ 0) :=
          (List.take_sublist 10 rows).countP_le
    · rcases hstrict with rfl | rfl
      · left
        intro row hrow
        exact not_lt.mp fun hlt => hopposite row hrow (signOf_eq_neg_one_iff.mpr hlt)
      · right
        intro row hrow
        exact not_lt.mp fun hlt => hopposite row hrow (signOf_eq_one_iff.mpr hlt)

/-- Ten rows of one strict sign give a seat to the first row of the other sign, and where there
is none to one without an effect. -/
theorem presented_of_strict {sign : Int} (hrows : Descending rows) (hstrict : sign = 1 ∨ sign = -1)
    (hlong : 10 < rows.length) (h : ∀ row ∈ rows.take 10, signOf row = sign) :
    presentedWithBothSigns rows =
      match ((rows.drop 10).find? fun row => signOf row = -sign).or
          ((rows.drop 10).find? fun row => signOf row = 0) with
      | none => rows.take 10
      | some missing => (rows.take 10).dropLast ++ [missing] := by
  have hrest : Descending (rows.drop 10) := List.Pairwise.drop hrows
  rw [presented_of_one_sign hlong h, hrest.find?_other hstrict]

theorem Displaces.seats {sign : Int} (hrows : Descending rows) (h : Displaces sign rows) :
    ∃ row ∈ presentedWithBothSigns rows, row ∉ rows.take 10 ∧ row.effect = 0 := by
  obtain ⟨zero, hzero⟩ := h.zero
  have hsign := List.find?_some hzero
  have heffect : signOf zero = 0 := of_decide_eq_true hsign
  refine ⟨zero, ?_, ?_, signOf_eq_zero_iff.mp heffect⟩
  · rw [presented_of_strict hrows h.strict h.long h.oneSign, h.unopposed, hzero]
    exact List.mem_append_right _ (List.mem_singleton.mpr rfl)
  · intro hmem
    have hstrict := h.strict
    rw [h.oneSign zero hmem] at heffect
    omega

theorem presented_of_short (h : ¬ 10 < rows.length) : presentedWithBothSigns rows = rows.take 10 := by
  unfold presentedWithBothSigns presentedContributorLimit
  exact if_pos (not_lt.mp h)

/-- The rows are presented as the ten largest where those do not all have one strict sign. -/
theorem presented_of_not_strict (h : ∀ sign : Int, sign = 1 ∨ sign = -1 →
    ¬ ∀ row ∈ rows.take 10, signOf row = sign) (hrows : Descending rows) :
    presentedWithBothSigns rows = rows.take 10 := by
  by_cases hlong : 10 < rows.length
  · by_cases hmixed : ∃ a ∈ rows.take 10, ∃ b ∈ rows.take 10, signOf a ≠ signOf b
    · obtain ⟨a, ha, b, hb, hne⟩ := hmixed
      exact presented_of_mixed ha hb hne
    · push Not at hmixed
      -- without a strict sign in common no row has an effect
      have hzero : ∀ row ∈ rows.take 10, signOf row = 0 := by
        intro row hrow
        by_contra hne
        have hstrict : signOf row = 1 ∨ signOf row = -1 := by
          by_contra hnot
          push Not at hnot
          exact hne (signOf_eq_zero_of (Or.inl rfl) hnot.1 hnot.2)
        exact h (signOf row) hstrict fun other hother => hmixed other hother row hrow
      have hnone : (rows.drop 10).find? (fun row => signOf row ≠ 0) = none := by
        apply List.find?_eq_none.mpr
        intro row hrow hsign
        have hne : row.effect ≠ 0 := fun heffect =>
          of_decide_eq_true hsign (signOf_eq_zero_iff.mpr heffect)
        obtain ⟨first, hfirst⟩ := List.exists_mem_of_length_pos
          (show 0 < (rows.take 10).length by rw [List.length_take]; omega)
        have hmem := hrows.mem_take hfirst (signOf_eq_zero_iff.mp (hzero first hfirst))
          (List.mem_of_mem_drop hrow) hne
        exact hne (signOf_eq_zero_iff.mp (hzero row hmem))
      rw [presented_of_one_sign hlong hzero, hnone]
  · exact presented_of_short hlong

/-- Where no row without an effect is seated, the intended rows are presented. -/
theorem presented_eq_intended (hrows : Descending rows) (h : ∀ sign, ¬ Displaces sign rows) :
    presentedWithBothSigns rows = intendedRows rows := by
  unfold intendedRows
  dsimp only
  by_cases hone : ∃ sign : Int, (sign = 1 ∨ sign = -1) ∧ ∀ row ∈ rows.take 10, signOf row = sign
  · obtain ⟨sign, hstrict, hone⟩ := hone
    by_cases hnil : rows = []
    · subst hnil
      rfl
    · have hne : rows.take 10 ≠ [] := by
        rw [Ne, List.take_eq_nil_iff]
        simp [hnil]
      rw [missingSign_of_one_sign hstrict hne hone]
      by_cases hlong : 10 < rows.length
      · rw [presented_of_strict hrows hstrict hlong hone]
        cases hopposite : (rows.drop 10).find? fun row => signOf row = -sign with
        | some row => rfl
        | none =>
            cases hzero : (rows.drop 10).find? fun row => signOf row = 0 with
            | none => rfl
            | some zero => exact absurd ⟨hstrict, hlong, hone, hopposite, zero, hzero⟩ (h sign)
      · rw [presented_of_short hlong, List.drop_eq_nil_of_le (not_lt.mp hlong)]
        rfl
  · have hmixed : ∀ sign : Int, sign = 1 ∨ sign = -1 →
        ¬ ∀ row ∈ rows.take 10, signOf row = sign := fun sign hstrict hall =>
      hone ⟨sign, hstrict, hall⟩
    rw [missingSign_of_mixed hmixed]
    exact presented_of_not_strict hmixed hrows

/-- A row that is intended besides the ten largest has an effect. -/
theorem intended_noZero {row : ContributorRow} (hrow : row ∈ intendedRows rows)
    (hseat : row ∉ rows.take 10) : row.effect ≠ 0 := by
  unfold intendedRows at hrow
  dsimp only at hrow
  cases hmissing : missingSign (rows.take 10) rows with
  | none =>
      rw [hmissing] at hrow
      exact absurd hrow hseat
  | some missing =>
      rw [hmissing] at hrow
      rcases List.mem_append.mp hrow with hkept | hadded
      · exact absurd ((List.dropLast_sublist _).subset hkept) hseat
      · obtain rfl : row = missing := List.mem_singleton.mp hadded
        unfold missingSign at hmissing
        split at hmissing
        · have hneg := List.find?_some hmissing
          exact (of_decide_eq_true hneg).ne
        · split at hmissing
          · have hpos := List.find?_some hmissing
            exact (of_decide_eq_true hpos).ne'
          · cases hmissing

theorem intended_strict {sign : Int} (hstrict : sign = 1 ∨ sign = -1) (hrows : Descending rows)
    (hrow : ∃ row ∈ rows, signOf row = sign) (hother : ∃ row ∈ rows, signOf row = -sign) :
    ∃ row ∈ intendedRows rows, signOf row = sign := by
  obtain ⟨row, hrow, hsign⟩ := hrow
  have hnil : rows ≠ [] := List.ne_nil_of_mem hrow
  have hne : rows.take 10 ≠ [] := by
    rw [Ne, List.take_eq_nil_iff]
    simp [hnil]
  unfold intendedRows
  dsimp only
  by_cases hone : ∃ s : Int, (s = 1 ∨ s = -1) ∧ ∀ row ∈ rows.take 10, signOf row = s
  · obtain ⟨s, hs, hone⟩ := hone
    have hopposite : ∃ row ∈ rows.drop 10, signOf row = -s := by
      have hsome : ∃ row ∈ rows, signOf row = -s := by
        rcases (show s = -sign ∨ s = sign by omega) with rfl | rfl
        · exact ⟨row, hrow, by rw [hsign, neg_neg]⟩
        · exact hother
      obtain ⟨other, hmem, hneg⟩ := hsome
      rw [← List.take_append_drop 10 rows, List.mem_append] at hmem
      refine ⟨other, hmem.resolve_left fun htop => ?_, hneg⟩
      rw [hone other htop] at hneg
      omega
    have hfound : ((rows.drop 10).find? fun row => signOf row = -s).isSome := by
      obtain ⟨other, hmem, hneg⟩ := hopposite
      rw [List.find?_isSome]
      exact ⟨other, hmem, decide_eq_true hneg⟩
    rw [missingSign_of_one_sign hs hne hone]
    obtain ⟨missing, hmissing⟩ := Option.isSome_iff_exists.mp hfound
    rw [hmissing]
    dsimp only
    have hneg := List.find?_some hmissing
    rcases (show sign = -s ∨ sign = s by omega) with rfl | rfl
    · exact ⟨missing, List.mem_append_right _ (List.mem_singleton.mpr rfl), of_decide_eq_true hneg⟩
    · -- nine of the ten rows keep their seat
      have hlength : 0 < ((rows.take 10).dropLast).length := by
        obtain ⟨other, hmem, -⟩ := hopposite
        have hdrop := List.length_pos_of_mem hmem
        rw [List.length_drop] at hdrop
        rw [List.length_dropLast, List.length_take]
        omega
      obtain ⟨first, hfirst⟩ := List.exists_mem_of_length_pos hlength
      exact ⟨first, List.mem_append_left _ hfirst, hone first ((List.dropLast_sublist _).subset hfirst)⟩
  · have hmixed : ∀ s : Int, s = 1 ∨ s = -1 → ¬ ∀ row ∈ rows.take 10, signOf row = s :=
      fun s hs hall => hone ⟨s, hs, hall⟩
    rw [missingSign_of_mixed hmixed]
    dsimp only
    by_cases hzero : ∃ zero ∈ rows.take 10, signOf zero = 0
    · obtain ⟨zero, hmem, hzero⟩ := hzero
      refine ⟨row, hrows.mem_take hmem (signOf_eq_zero_iff.mp hzero) hrow ?_, hsign⟩
      intro heffect
      rw [signOf_eq_zero_iff.mpr heffect] at hsign
      omega
    · push Not at hzero
      by_contra hnot
      push Not at hnot
      apply hmixed (-sign) (by omega)
      intro top htop
      by_contra hne
      exact hzero top htop (signOf_eq_zero_of hstrict (hnot top htop) hne)

theorem intended_bothSigns (hrows : Descending rows) (hpos : ∃ row ∈ rows, 0 < row.effect)
    (hneg : ∃ row ∈ rows, row.effect < 0) :
    (∃ row ∈ intendedRows rows, 0 < row.effect) ∧ ∃ row ∈ intendedRows rows, row.effect < 0 := by
  simp only [← signOf_eq_one_iff, ← signOf_eq_neg_one_iff] at hpos hneg ⊢
  constructor
  · exact intended_strict (Or.inl rfl) hrows hpos hneg
  · exact intended_strict (Or.inr rfl) hrows hneg (by simpa using hpos)

end Presented

section Numbers

variable {digitOf : Char → Option (Fin 10)} {add : Addition} {snapshot : Fields}
  {entries : List Json}

theorem truthy_of_usableRow {names : List (String × String)} {entry : Json} {row : ContributorRow}
    (h : usableRow digitOf names entry = some row) : entry.truthy = true := by
  obtain ⟨fields, hfields, hrow⟩ := Option.bind_eq_some_iff.mp h
  obtain ⟨value, hvalue, -⟩ := Option.map_eq_some_iff.mp hrow
  cases entry with
  | obj members =>
      obtain rfl : members = fields := Option.some.inj hfields
      cases members with
      | nil => cases hvalue
      | cons member members => rfl
  | _ => cases hfields

theorem length_supplied (names : List (String × String)) (entries : List Json) :
    (entries.filter Json.truthy).length = (entries.filterMap (usableRow digitOf names)).length +
      ((entries.filter Json.truthy).filter fun entry =>
        usableRow digitOf names entry = none).length := by
  induction entries with
  | nil => rfl
  | cons entry entries ih =>
      cases hrow : usableRow digitOf names entry with
      | some row =>
          have htruthy := truthy_of_usableRow hrow
          rw [List.filter_cons_of_pos htruthy, List.filterMap_cons_some hrow,
            List.filter_cons_of_neg (by simp [hrow]), List.length_cons, List.length_cons, ih]
          omega
      | none =>
          rw [List.filterMap_cons_none hrow]
          by_cases htruthy : entry.truthy = true
          · rw [List.filter_cons_of_pos htruthy, List.filter_cons_of_pos (by simp [hrow]),
              List.length_cons, List.length_cons, ih]
            omega
          · rw [List.filter_cons_of_neg htruthy, ih]

theorem length_ranked (entries : List Json) :
    (rankedContributors digitOf snapshot entries).length =
      (usableRows digitOf snapshot entries).length :=
  (perm_ranked _ _).length_eq

theorem numbers_agree (hpresent : get (contributionSection snapshot) "status" = .str "present")
    (hentries : iterated (get (contributionSection snapshot) "top_position_contributors") =
      some entries) (hsums : ExactSums digitOf add snapshot entries) :
    ∃ outcome, buildContributionRanking digitOf add snapshot = .ok outcome ∧
      outcome.Agrees (entries.filter Json.truthy)
        ((entries.filter Json.truthy).filter fun entry =>
          usableRow digitOf (namedSecurities snapshot) entry = none)
        (rankedContributors digitOf snapshot entries)
        (presentedWithBothSigns (rankedContributors digitOf snapshot entries)) := by
  have hlength := @length_supplied digitOf (namedSecurities snapshot) entries
  have hranked := @length_ranked digitOf snapshot entries
  unfold buildContributionRanking
  simp only [hpresent, ne_eq, not_true_eq_false, if_false, hentries]
  by_cases hrows : rankedContributors digitOf snapshot entries = []
  · rw [if_pos hrows]
    refine ⟨_, rfl, ?_⟩
    unfold emptyOutcome
    split
    · rename_i hnone
      exact hnone
    · rename_i hsome
      refine ⟨hrows, hsome, ?_⟩
      rw [hrows, List.length_nil] at hranked
      unfold usableRows at hranked
      omega
  · rw [if_neg hrows]
    obtain ⟨total, htotal, hvalue⟩ := sum_exact
      ((presentedWithBothSigns (rankedContributors digitOf snapshot entries)).map (·.value))
    have hresidual : ∃ residual, residualOf add
        (contributionDecimal digitOf
          (get (contributionSection snapshot) "total_portfolio_return_pct"))
        (contributionDecimal digitOf
          (get (contributionSection snapshot) "total_contribution_pct")) = .ok residual := by
      unfold residualOf
      split
      · rename_i total explained htotal hexplained
        rw [hsums.residual total explained htotal hexplained]
        exact ⟨_, rfl⟩
      · exact ⟨_, rfl⟩
    obtain ⟨residual, hresidual⟩ := hresidual
    rw [hsums.presented, htotal, hresidual]
    refine ⟨_, rfl, rfl, rfl, rfl, ?_, total, ?_, rfl⟩
    · dsimp only
      unfold usableRows at hranked
      omega
    · rw [hvalue, List.map_map]
      rfl

theorem zeroSeated_perm {rows rows' : List ContributorRow} (h : rows.Perm rows') :
    ZeroSeated rows ↔ ZeroSeated rows' := by
  unfold ZeroSeated
  simp only [h.mem_iff, h.countP_eq]

/-- A ranking is not misleading exactly if no row without an effect takes a seat. -/
theorem honest_iff (hpresent : get (contributionSection snapshot) "status" = .str "present")
    (hentries : iterated (get (contributionSection snapshot) "top_position_contributors") =
      some entries) (hsums : ExactSums digitOf add snapshot entries) :
    Honest digitOf add snapshot entries ↔ ¬ ZeroSeated (usableRows digitOf snapshot entries) := by
  have hperm : (rankedContributors digitOf snapshot entries).Perm
      (usableRows digitOf snapshot entries) := perm_ranked _ _
  have hrows : Descending (rankedContributors digitOf snapshot entries) := descending_ranked _
  rw [← zeroSeated_perm hperm, zeroSeated_iff hrows]
  constructor
  · rintro h ⟨sign, hdisplaces⟩
    obtain ⟨row, hrow, hseat, heffect⟩ := hdisplaces.seats hrows
    exact h.noZero row hrow hseat heffect
  · intro h
    push Not at h
    have hintended := presented_eq_intended hrows h
    refine ⟨⟨hperm, pairwise_le_ranked _ _⟩, hintended, ?_, ?_, numbers_agree hpresent hentries hsums⟩
    · rw [hintended]
      exact fun row => intended_noZero
    · rw [hintended]
      simp only [← hperm.mem_iff]
      exact intended_bothSigns hrows

/-- Contributors that state only an identifier and a contribution. -/
def sampleEntries (contributors : List (String × String)) : List Json :=
  contributors.map fun contributor =>
    .obj [("security_id", .str contributor.1), ("total_contribution_pct", .str contributor.2)]

def sampleSnapshot (contributors : List (String × String)) : Fields :=
  [("performance", .obj [("contribution", .obj [("status", .str "present"),
    ("top_position_contributors", .arr (sampleEntries contributors))])])]

/-- Ten gains and a security without a movement. -/
def idleSecurity : List (String × String) :=
  [("A", "0.10"), ("B", "0.20"), ("C", "0.30"), ("D", "0.40"), ("E", "0.50"), ("F", "0.60"),
    ("G", "0.70"), ("H", "0.80"), ("I", "0.90"), ("J", "1.00"), ("K", "0")]

/-- Ten gains, a loss and a security without a movement. -/
def smallLoss : List (String × String) := ("L", "-0.05") :: idleSecurity

/-- The loss takes the seat of the weakest gain. -/
theorem honest_smallLoss : Honest asciiDigit (Addition.inContext workingContext)
    (sampleSnapshot smallLoss) (sampleEntries smallLoss) := by
  refine (honest_iff (by decide +kernel) (by decide +kernel) ⟨by decide +kernel, ?_⟩).mpr ?_
  · intro total explained htotal
    cases htotal
  · unfold ZeroSeated
    decide +kernel

/-- The security without a movement takes the seat of the weakest gain. -/
theorem not_honest_idleSecurity : ¬ Honest asciiDigit (Addition.inContext workingContext)
    (sampleSnapshot idleSecurity) (sampleEntries idleSecurity) := by
  intro h
  have hzero := h.noZero
  revert hzero
  decide +kernel

end Numbers

end LotusReport.Rendering
