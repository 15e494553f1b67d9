import LotusReport.Rendering.ContributionRanking
import LotusReport.Rendering.EarningsBlocks

/-!
# The published figures

The bridge, the statement and the ranking return for a snapshot, and each figure
that they publish shows its captured value, exactly if no captured figure is
written as an infinity or as no number, none has more digits than the working
precision, and the sums of the ranking stay in the range.
-/

namespace LotusReport.Rendering

open Encoding Decimals Relational Transactions Fallible

section Purpose

variable (digitOf : Char → Option (Fin 10)) (title : String → String)
  (snapshot : Fields)

/-- Addition in the working precision. -/
def working : Addition := Addition.inContext workingContext

/-- What the ranking iterates over is a list or absent. -/
def RankingLists : Prop :=
  ListOrAbsent (get (contributionSection snapshot) "top_position_contributors")

/-- The captured contributors. -/
def capturedContributors : List Json :=
  asList (get (contributionSection snapshot) "top_position_contributors")

/-- A contributor shows the values of a captured one. -/
def PublishedContributor.Shows (contributor : PublishedContributor) (entry : Json) : Prop :=
  Published digitOf (get (asDict entry) "total_contribution_pct") (some contributor.contributionPct) ∧
    Published digitOf (get (asDict entry) "average_weight_pct") contributor.averageWeightPct ∧
    Published digitOf (get (asDict entry) "total_return_pct") contributor.returnPct

/-- The total return less what is explained is shown, where both are stated. -/
def ResidualShows (shown : Option String) : Option Decimal → Option Decimal → Prop
  | some total, some explained => ∃ residual, working total explained.negate = .ok residual ∧
      Rendering.Shows residual shown
  | _, _ => shown = none

/-- The figures of a ranking show the captured values, and what is computed from them. -/
structure Ranking.Shows (ranking : Ranking) : Prop where
  totalReturn : Published digitOf
    (get (contributionSection snapshot) "total_portfolio_return_pct") ranking.totalPortfolioReturnPct
  explained : Published digitOf
    (get (contributionSection snapshot) "total_contribution_pct") ranking.explainedContributionPct
  contributors : ∀ contributor ∈ ranking.contributors, ∃ entry ∈ capturedContributors snapshot,
    contributor.Shows digitOf entry
  presented : ∃ total, working.sum ((presentedWithBothSigns (rankedContributors digitOf snapshot
      (capturedContributors snapshot))).map (·.value)) = .ok total ∧
    Rendering.Shows total (some ranking.presentedContributionPct)
  residual : ResidualShows ranking.unexplainedResidualPct
    (contributionDecimal digitOf (get (contributionSection snapshot) "total_portfolio_return_pct"))
    (contributionDecimal digitOf (get (contributionSection snapshot) "total_contribution_pct"))

def RankingOutcome.Shows : RankingOutcome → Prop
  | .ready ranking => ranking.Shows digitOf snapshot
  | _ => True

/-- The builders return, and every figure shows its captured value. -/
structure AllShown : Prop where
  bridge : ∃ outcome, buildAttributionBridge digitOf title snapshot = .ok outcome ∧
    List.Forall₂ (fun figure text => text.1 = figure.1 ∧ Published digitOf figure.2 text.2)
      (bridgeFigures snapshot) outcome.figures
  statement : ∃ outcome, buildEarningsBlocks digitOf snapshot = .ok outcome ∧
    List.Forall₂ (fun figure text => text.1 = figure.1 ∧
      PublishedAs digitOf "Not available" figure.2 text.2) (statementFigures snapshot) outcome.figures
  ranking : ∃ outcome, buildContributionRanking digitOf working snapshot = .ok outcome ∧
    outcome.Shows digitOf snapshot

/-- What the ranking adds up, and what it subtracts, stays below the limit of the context. -/
def SumsHeld : Prop :=
  get (contributionSection snapshot) "status" = .str "present" →
  usableRows digitOf snapshot (capturedContributors snapshot) ≠ [] →
    workingContext.SumWithin ((presentedWithBothSigns (rankedContributors digitOf snapshot
      (capturedContributors snapshot))).map (·.value)) ∧
    ∀ total explained,
      contributionDecimal digitOf (get (contributionSection snapshot) "total_portfolio_return_pct") =
        some total →
      contributionDecimal digitOf (get (contributionSection snapshot) "total_contribution_pct") =
        some explained →
      |total.value - explained.value| < workingContext.limit

/-- The captured figures are held, and so are the sums. -/
structure AllHeld : Prop where
  bridge : ∀ figure ∈ bridgeFigures snapshot, Publishable digitOf figure.2
  statement : ∀ figure ∈ statementFigures snapshot, Publishable digitOf figure.2
  sums : SumsHeld digitOf snapshot

end Purpose

section Results

variable {digitOf : Char → Option (Fin 10)} {title : String → String}
  {snapshot : Fields}

theorem ListOrAbsent.iterated {value : Json} (h : ListOrAbsent value) :
    iterated value = some (asList value) := by
  rcases h with rfl | ⟨items, rfl⟩
  · rfl
  · cases items with
    | nil => rfl
    | cons item items => rfl

theorem usableRow_shows {names : List (String × String)} {entry : Json} {row : ContributorRow}
    (h : usableRow digitOf names entry = some row) : row.published.Shows digitOf entry := by
  obtain ⟨fields, hfields, hrow⟩ := Option.bind_eq_some_iff.mp h
  obtain ⟨value, hvalue, rfl⟩ := Option.map_eq_some_iff.mp hrow
  rw [← dict?_eq_some hfields] at hvalue ⊢
  refine ⟨?_, published_twoPlaces _, published_twoPlaces _⟩
  have hshown := @published_twoPlaces digitOf
    (get (asDict entry) "total_contribution_pct")
  rw [hvalue] at hshown
  exact hshown

theorem presented_shows {entries : List Json} {row : ContributorRow}
    (h : row ∈ presentedWithBothSigns (rankedContributors digitOf snapshot entries)) :
    ∃ entry ∈ entries, row.published.Shows digitOf entry := by
  have hrow : row ∈ usableRows digitOf snapshot entries :=
    (perm_ranked _ _).mem_iff.mp (mem_of_presented h)
  obtain ⟨entry, hentry, husable⟩ := List.mem_filterMap.mp hrow
  exact ⟨entry, hentry, usableRow_shows husable⟩

theorem residualOf_shows {total explained residual : Option Decimal}
    (h : residualOf working total explained = .ok residual) :
    ResidualShows (residual.map twoPlaces) total explained := by
  cases total with
  | none =>
      cases h
      rfl
  | some total =>
      cases explained with
      | none =>
          cases h
          rfl
      | some explained =>
          obtain ⟨difference, hdifference, rfl⟩ := map_eq_ok.mp h
          exact ⟨difference, hdifference, twoPlaces_shows difference⟩

theorem ranged_workingContext : workingContext.Ranged := ⟨by decide, by decide⟩

theorem sum_working_iff {items : List Decimal} :
    (∃ total, working.sum items = .ok total) ↔ workingContext.SumWithin items :=
  sum_ok_iff ranged_workingContext

/-- The residual is returned exactly if the difference lies below the limit. -/
theorem residualOf_ok_iff {total explained : Option Decimal} :
    (∃ residual, residualOf working total explained = .ok residual) ↔
      ∀ t e, total = some t → explained = some e → |t.value - e.value| < workingContext.limit := by
  cases total with
  | none => exact iff_of_true ⟨_, rfl⟩ fun _ _ h => absurd h (by simp)
  | some total =>
      cases explained with
      | none => exact iff_of_true ⟨_, rfl⟩ fun _ _ _ h => absurd h (by simp)
      | some explained =>
          have hnegate : explained.negate.value = -explained.value := by
            unfold Decimal.negate Decimal.value
            cases explained.negative <;> simp [Decimal.magnitude]
          have hok := inContext_ok_iff ranged_workingContext (a := total) (b := explained.negate)
          rw [hnegate, ← sub_eq_add_neg] at hok
          constructor
          · rintro ⟨_, hresidual⟩ _ _ ⟨⟩ ⟨⟩
            obtain ⟨difference, hdifference, -⟩ := map_eq_ok.mp hresidual
            exact hok.mp ⟨difference, hdifference⟩
          · intro hbelow
            obtain ⟨difference, hdifference⟩ := hok.mpr (hbelow total explained rfl rfl)
            exact ⟨_, map_eq_ok.mpr ⟨difference, hdifference, rfl⟩⟩

/-- The ranking returns exactly if its sums are held, and then it shows the captured values. -/
theorem ranking_iff (hlists : RankingLists snapshot) :
    (∃ outcome, buildContributionRanking digitOf working snapshot = .ok outcome ∧
      outcome.Shows digitOf snapshot) ↔ SumsHeld digitOf snapshot := by
  have hranked : rankedContributors digitOf snapshot (capturedContributors snapshot) = [] ↔
      usableRows digitOf snapshot (capturedContributors snapshot) = [] := by
    unfold rankedContributors
    rw [← List.length_eq_zero_iff, (perm_ranked _ _).length_eq, List.length_eq_zero_iff]
  have hentries : iterated (get (contributionSection snapshot) "top_position_contributors") =
      some (capturedContributors snapshot) := hlists.iterated
  unfold buildContributionRanking SumsHeld
  simp only [← sum_working_iff, ← residualOf_ok_iff]
  rw [hentries]
  by_cases hstatus : get (contributionSection snapshot) "status" = .str "present"
  · rw [if_neg (not_not_intro hstatus)]
    dsimp only
    by_cases hrows : rankedContributors digitOf snapshot (capturedContributors snapshot) = []
    · rw [if_pos hrows]
      refine iff_of_true ⟨_, rfl, ?_⟩ fun _ hne => absurd (hranked.mp hrows) hne
      unfold emptyOutcome
      split <;> trivial
    · rw [if_neg hrows]
      have hne := mt hranked.mpr hrows
      constructor
      · rintro ⟨outcome, houtcome, -⟩ - -
        split at houtcome
        · cases houtcome
        · cases houtcome
        · rename_i total residual htotal hresidual
          exact ⟨⟨total, htotal⟩, residual, hresidual⟩
      · intro hsums
        obtain ⟨⟨total, htotal⟩, residual, hresidual⟩ := hsums hstatus hne
        rw [htotal, hresidual]
        refine ⟨_, rfl, published_twoPlaces _, published_twoPlaces _, ?_,
          ⟨total, htotal, twoPlaces_shows total⟩, residualOf_shows hresidual⟩
        intro contributor hcontributor
        obtain ⟨row, hrow, rfl⟩ := List.mem_map.mp hcontributor
        exact presented_shows hrow
  · rw [if_pos hstatus]
    exact iff_of_true ⟨_, rfl, trivial⟩ fun hpresent => absurd hpresent hstatus

/-- A snapshot whose three blocks state one figure each. -/
def figureSnapshot (allocation gross contribution : String) : Fields :=
  [("attribution", .obj [("status", .str "present"), ("results_by_period", .obj [("YTD", .obj
      [("levels", .arr [.obj [("dimension", .str "asset_class"), ("groups", .arr [.obj
        [("key", .obj [("asset_class", .str "fixed_income")]),
          ("allocation", .str allocation)]])]])])])]),
    ("incomeAndActivity", .obj
      [("incomeSummary", .obj [("gross_amount_reporting_currency", .str gross)]),
        ("realizedPnlSummary", .obj [("status", .str "present")])]),
    ("performance", .obj [("contribution", .obj [("status", .str "present"),
      ("top_position_contributors", .arr (sampleEntries [("A", contribution)]))])])]

theorem bridgeLists_figureSnapshot (allocation gross contribution : String) :
    BridgeLists (figureSnapshot allocation gross contribution) := by
  refine ⟨Or.inl rfl, ?_, ?_⟩
  · intro period level h
    unfold presentedLevel at h
    dsimp only at h
    split at h
    · cases h
    · cases h
      exact Or.inr ⟨_, rfl⟩
  · intro period level h
    unfold presentedLevel at h
    dsimp only at h
    split at h
    · cases h
    · cases h
      exact Or.inl rfl

end Results

end LotusReport.Rendering
