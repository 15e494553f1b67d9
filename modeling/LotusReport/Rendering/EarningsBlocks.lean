import LotusReport.Rendering.AttributionBridge

/-!
# The blocks of the earnings statement

What the portfolio paid and what it locked in: the sums of the income, those of
the realized profit with the largest gain and loss, and the basis of both. A sum
that is not stated is published as not available.
-/

namespace LotusReport.Rendering

open Encoding Transactions Fallible

section Model

structure IncomeTypeRow where
  incomeType : String
  net : String
  transactionCount : Int
deriving DecidableEq

structure IncomeBlock where
  transactionCount : Int
  amounts : List (String × String)
  /-- The split by type, where it is captured. -/
  byType : Option (List IncomeTypeRow)
deriving DecidableEq

structure KeyFigure where
  securityName : String
  amount : String
  transactionDate : Option String
deriving DecidableEq

structure RealizedBlock where
  status : String
  transactionCount : Int
  amounts : List (String × String)
  largestGain : Option KeyFigure
  largestLoss : Option KeyFigure
deriving DecidableEq

structure StatementMethodology where
  basis : Option String
  taxLotJurisdictionTreatment : Option String
deriving DecidableEq

structure StatementBlocks where
  income : IncomeBlock
  realizedPnl : RealizedBlock
  methodology : StatementMethodology
deriving DecidableEq

/-- What `build_earnings_statement` returns. -/
inductive EarningsOutcome where
  | notOrdered
  | unavailable (notes : List StatementNote)
  | resolved (statement : EarningsStatement) (blocks : StatementBlocks)
deriving DecidableEq

/-- `_INCOME_TYPES`. -/
def incomeTypes : List String := ["DIVIDEND", "INTEREST"]

/-- The captured sums of the income, by the names under which they are published. -/
def incomeAmounts (income : Fields) : Fields :=
  [("gross", get income "gross_amount_reporting_currency"),
    ("withholding_tax", get income "withholding_tax_reporting_currency"),
    ("other_deductions", get income "other_deductions_reporting_currency"),
    ("net", get income "net_amount_reporting_currency")]

def realizedAmounts (realized : Fields) : Fields :=
  [("net", get realized "total_realized_pnl_reporting_currency"),
    ("gains", get realized "total_realized_gains_reporting_currency"),
    ("losses", get realized "total_realized_losses_reporting_currency")]

/-- The income types of a split, in the order of `_INCOME_TYPES`. -/
def presentTypes (byType : Fields) : List String :=
  incomeTypes.filter fun incomeType => (Json.lookup byType incomeType).isSome

variable (digitOf : Char → Option (Fin 10))

def incomeTypeRow (byType : Fields) (incomeType : String) :
    Except BuilderError IncomeTypeRow := do
  let entry := asDict (get byType incomeType)
  let net ← moneyText digitOf (get entry "net_amount_reporting_currency")
  return ⟨incomeType, net, count (get entry "transaction_count")⟩

/-- `_income_block`. -/
def incomeBlock (income : Fields) : Except BuilderError IncomeBlock := do
  let byType := asDict (get income "by_income_type")
  let amounts ← publishAll (moneyText digitOf) (incomeAmounts income)
  let rows ← (presentTypes byType).mapM (incomeTypeRow digitOf byType)
  return {
    transactionCount := count (get income "transaction_count")
    amounts := amounts
    byType := if byType = [] then none else some rows }

/-- `_key_figure`. -/
def keyFigure (snapshot : Fields) (value : Json) :
    Except BuilderError (Option KeyFigure) :=
  let figure := asDict value
  if figure = [] then .ok none
  else do
    let amount ← moneyText digitOf (get figure "realized_pnl_reporting_currency")
    return some {
      securityName := readableName (namedSecurities snapshot) (text (get figure "security_id"))
      amount := amount
      transactionDate := textOrNone (get figure "transaction_date") }

/-- `_realized_block`. -/
def realizedBlock (snapshot realized : Fields) : Except BuilderError RealizedBlock := do
  let amounts ← publishAll (moneyText digitOf) (realizedAmounts realized)
  let gain ← keyFigure digitOf snapshot (get realized "largest_realized_gain")
  let loss ← keyFigure digitOf snapshot (get realized "largest_realized_loss")
  return {
    status := (textOrNone (get realized "status")).getD "not_applicable"
    transactionCount := count (get realized "transaction_count")
    amounts := amounts
    largestGain := gain
    largestLoss := loss }

/-- `_methodology`. -/
def statementMethodology (realized : Fields) : StatementMethodology :=
  let source := asDict (get realized "methodology")
  ⟨textOrNone (get source "basis"), textOrNone (get source "tax_lot_jurisdiction_treatment")⟩

/-- The blocks of a statement. -/
def statementBlocks (snapshot section_ : Fields) :
    Except BuilderError StatementBlocks := do
  let realized := asDict (get section_ "realizedPnlSummary")
  let income ← incomeBlock digitOf (asDict (get section_ "incomeSummary"))
  let realizedPnl ← realizedBlock digitOf snapshot realized
  return ⟨income, realizedPnl, statementMethodology realized⟩

/-- `build_earnings_statement`, with the blocks of a resolved statement. -/
def buildEarningsBlocks (snapshot : Fields) : Except BuilderError EarningsOutcome :=
  match buildEarningsStatement snapshot with
  | none => .error .typeError
  | some .notOrdered => .ok .notOrdered
  | some (.unavailable notes) => .ok (.unavailable notes)
  | some (.resolved statement) => do
      let blocks ← statementBlocks digitOf snapshot (asDict (get snapshot "incomeAndActivity"))
      return .resolved statement blocks

end Model

section Purpose

/-- The amounts of a statement, in the order in which they are published. -/
def IncomeTypeRow.amounts (row : IncomeTypeRow) : List (String × String) := [("net", row.net)]

def IncomeBlock.figures (block : IncomeBlock) : List (String × String) :=
  block.amounts ++ (block.byType.getD []).flatMap IncomeTypeRow.amounts

def KeyFigure.amounts (figure : KeyFigure) : List (String × String) := [("amount", figure.amount)]

def RealizedBlock.figures (block : RealizedBlock) : List (String × String) :=
  block.amounts ++ block.largestGain.toList.flatMap KeyFigure.amounts ++
    block.largestLoss.toList.flatMap KeyFigure.amounts

def EarningsOutcome.figures : EarningsOutcome → List (String × String)
  | .resolved _ blocks => blocks.income.figures ++ blocks.realizedPnl.figures
  | _ => []

/-- The captured amount of an income type. -/
def incomeTypeAmounts (byType : Fields) (incomeType : String) :
    Fields :=
  [("net", get (asDict (get byType incomeType)) "net_amount_reporting_currency")]

def incomeFigures (income : Fields) : Fields :=
  let byType := asDict (get income "by_income_type")
  incomeAmounts income ++ (presentTypes byType).flatMap (incomeTypeAmounts byType)

/-- The captured amount of a largest gain or loss. -/
def keyFigureAmounts (value : Json) : Fields :=
  if asDict value = [] then []
  else [("amount", get (asDict value) "realized_pnl_reporting_currency")]

def realizedFigures (realized : Fields) : Fields :=
  realizedAmounts realized ++ keyFigureAmounts (get realized "largest_realized_gain") ++
    keyFigureAmounts (get realized "largest_realized_loss")

/-- The captured amounts that a statement publishes. -/
def statementFigures (snapshot : Fields) : Fields :=
  let section_ := asDict (get snapshot "incomeAndActivity")
  let income := asDict (get section_ "incomeSummary")
  let realized := asDict (get section_ "realizedPnlSummary")
  if income = [] ∨ realized = [] then [] else incomeFigures income ++ realizedFigures realized

/-- What the statement iterates over is a list or absent. -/
def StatementLists (snapshot : Fields) : Prop :=
  ListOrAbsent (get (asDict (get (asDict (get snapshot "incomeAndActivity")) "supportability")) "notes")

end Purpose

section Results

variable {digitOf : Char → Option (Fin 10)} {snapshot : Fields}

theorem publishAll_singleton {β : Type} {publish : Json → Except BuilderError β} {name : String}
    {value : Json} {shown : β} (h : publish value = .ok shown) :
    publishAll publish [(name, value)] = .ok [(name, shown)] := by
  unfold publishAll
  rw [List.mapM_cons, h]
  rfl

section Income

variable {byType income : Fields}

theorem incomeTypeRow_ok {incomeType : String} {row : IncomeTypeRow}
    (h : incomeTypeRow digitOf byType incomeType = .ok row) :
    publishAll (moneyText digitOf) (incomeTypeAmounts byType incomeType) = .ok row.amounts := by
  obtain ⟨net, hnet, hrow⟩ := bind_eq_ok.mp h
  cases hrow
  exact publishAll_singleton hnet

theorem exists_incomeTypeRow (byType : Fields) (incomeType : String)
    (h : AllPublish (moneyText digitOf) (incomeTypeAmounts byType incomeType)) :
    ∃ row, incomeTypeRow digitOf byType incomeType = .ok row := by
  obtain ⟨net, hnet⟩ := h _ List.mem_cons_self
  exact ⟨_, bind_eq_ok.mpr ⟨net, hnet, rfl⟩⟩

theorem incomeBlock_ok {block : IncomeBlock} (h : incomeBlock digitOf income = .ok block) :
    publishAll (moneyText digitOf) (incomeFigures income) = .ok block.figures := by
  unfold incomeBlock at h
  simp only [bind_eq_ok] at h
  obtain ⟨amounts, hamounts, rows, hrows, hblock⟩ := h
  cases hblock
  have hsplit := publishAll_flatMap (fun _ _ hrow => incomeTypeRow_ok hrow) hrows
  unfold incomeFigures IncomeBlock.figures
  apply publishAll_append hamounts
  by_cases hnil : asDict (get income "by_income_type") = []
  · -- without a split there is no type to state
    rw [hnil] at hrows ⊢
    rw [if_pos rfl]
    rfl
  · rw [if_neg hnil]
    exact hsplit

theorem exists_incomeBlock (h : AllPublish (moneyText digitOf) (incomeFigures income)) :
    ∃ block, incomeBlock digitOf income = .ok block := by
  obtain ⟨hamounts, hsplit⟩ := allPublish_append.mp h
  obtain ⟨amounts, hamounts⟩ := exists_publishAll hamounts
  obtain ⟨rows, hrows⟩ := exists_rows (exists_incomeTypeRow _) hsplit
  unfold incomeBlock
  simp only [bind_eq_ok]
  exact ⟨_, amounts, hamounts, rows, hrows, rfl⟩

end Income

section Realized

variable {realized : Fields} {value : Json}

theorem keyFigure_ok {figure : Option KeyFigure} (h : keyFigure digitOf snapshot value = .ok figure) :
    publishAll (moneyText digitOf) (keyFigureAmounts value) =
      .ok (figure.toList.flatMap KeyFigure.amounts) := by
  unfold keyFigure at h
  unfold keyFigureAmounts
  dsimp only at h
  split at h
  · rename_i hnil
    cases h
    rw [if_pos hnil]
    rfl
  · rename_i hfields
    obtain ⟨amount, hamount, hfigure⟩ := bind_eq_ok.mp h
    cases hfigure
    rw [if_neg hfields]
    exact publishAll_singleton hamount

theorem exists_keyFigure (snapshot : Fields)
    (h : AllPublish (moneyText digitOf) (keyFigureAmounts value)) :
    ∃ figure, keyFigure digitOf snapshot value = .ok figure := by
  unfold keyFigure
  unfold keyFigureAmounts at h
  dsimp only
  split
  · exact ⟨_, rfl⟩
  · rename_i hfields
    rw [if_neg hfields] at h
    obtain ⟨amount, hamount⟩ := h _ List.mem_cons_self
    exact ⟨_, bind_eq_ok.mpr ⟨amount, hamount, rfl⟩⟩

theorem realizedBlock_ok {block : RealizedBlock}
    (h : realizedBlock digitOf snapshot realized = .ok block) :
    publishAll (moneyText digitOf) (realizedFigures realized) = .ok block.figures := by
  unfold realizedBlock at h
  simp only [bind_eq_ok] at h
  obtain ⟨amounts, hamounts, gain, hgain, loss, hloss, hblock⟩ := h
  cases hblock
  apply publishAll_append _ (keyFigure_ok hloss)
  exact publishAll_append hamounts (keyFigure_ok hgain)

theorem exists_realizedBlock (snapshot : Fields)
    (h : AllPublish (moneyText digitOf) (realizedFigures realized)) :
    ∃ block, realizedBlock digitOf snapshot realized = .ok block := by
  obtain ⟨hfirst, hloss⟩ := allPublish_append.mp h
  obtain ⟨hamounts, hgain⟩ := allPublish_append.mp hfirst
  obtain ⟨amounts, hamounts⟩ := exists_publishAll hamounts
  obtain ⟨gain, hgain⟩ := exists_keyFigure snapshot hgain
  obtain ⟨loss, hloss⟩ := exists_keyFigure snapshot hloss
  unfold realizedBlock
  simp only [bind_eq_ok]
  exact ⟨_, amounts, hamounts, gain, hgain, loss, hloss, rfl⟩

end Realized

/-- The outcome of a statement says whether its amounts are stated. -/
theorem buildEarningsStatement_cases {outcome : StatementOutcome}
    (h : buildEarningsStatement snapshot = some outcome) :
    let section_ := asDict (get snapshot "incomeAndActivity")
    (∃ statement, outcome = .resolved statement) ↔
      ¬ (asDict (get section_ "incomeSummary") = [] ∨ asDict (get section_ "realizedPnlSummary") = []) := by
  unfold buildEarningsStatement at h
  dsimp only at h ⊢
  generalize asDict (get snapshot "incomeAndActivity") = section_ at h ⊢
  split at h
  · rename_i hnil
    subst hnil
    cases h
    apply iff_of_false
    · rintro ⟨statement, hstatement⟩
      cases hstatement
    · exact not_not_intro (Or.inl rfl)
  · obtain ⟨notes, -, rfl⟩ := Option.map_eq_some_iff.mp h
    split
    · rename_i hmissing
      apply iff_of_false _ (not_not_intro hmissing)
      rintro ⟨statement, hstatement⟩
      cases hstatement
    · rename_i hpresent
      exact iff_of_true ⟨_, rfl⟩ hpresent

/-- The statement publishes its captured amounts and no others. -/
theorem buildEarningsBlocks_ok {outcome : EarningsOutcome}
    (h : buildEarningsBlocks digitOf snapshot = .ok outcome) :
    publishAll (moneyText digitOf) (statementFigures snapshot) = .ok outcome.figures := by
  unfold buildEarningsBlocks at h
  cases hstatement : buildEarningsStatement snapshot with
  | none =>
      rw [hstatement] at h
      cases h
  | some stated =>
      have hcases := buildEarningsStatement_cases hstatement
      rw [hstatement] at h
      unfold statementFigures
      cases stated with
      | resolved statement =>
          obtain ⟨blocks, hblocks, houtcome⟩ := bind_eq_ok.mp h
          unfold statementBlocks at hblocks
          simp only [bind_eq_ok] at hblocks
          obtain ⟨income, hincome, realized, hrealized, hblocks⟩ := hblocks
          cases hblocks
          cases houtcome
          dsimp only at hcases ⊢
          rw [if_neg (hcases.mp ⟨statement, rfl⟩)]
          exact publishAll_append (incomeBlock_ok hincome) (realizedBlock_ok hrealized)
      | _ =>
          cases h
          dsimp only at hcases ⊢
          rw [if_pos (not_not.mp (mt hcases.mpr (by rintro ⟨statement, hresolved⟩; cases hresolved)))]
          rfl

theorem exists_buildEarningsBlocks (hlists : StatementLists snapshot)
    (h : AllPublish (moneyText digitOf) (statementFigures snapshot)) :
    ∃ outcome, buildEarningsBlocks digitOf snapshot = .ok outcome := by
  have hstated : ∃ stated, buildEarningsStatement snapshot = some stated := by
    unfold buildEarningsStatement rawNotes
    unfold StatementLists at hlists
    dsimp only
    generalize asDict (get snapshot "incomeAndActivity") = section_ at hlists ⊢
    split
    · exact ⟨_, rfl⟩
    · rcases hlists with hnull | ⟨items, hitems⟩
      · rw [hnull]
        exact ⟨_, rfl⟩
      · rw [hitems]
        exact ⟨_, rfl⟩
  obtain ⟨stated, hstated⟩ := hstated
  have hcases := buildEarningsStatement_cases hstated
  unfold buildEarningsBlocks
  rw [hstated]
  cases stated with
  | resolved statement =>
      unfold statementFigures at h
      dsimp only at hcases h
      rw [if_neg (hcases.mp ⟨statement, rfl⟩)] at h
      obtain ⟨hincome, hrealized⟩ := allPublish_append.mp h
      obtain ⟨income, hincome⟩ := exists_incomeBlock hincome
      obtain ⟨realized, hrealized⟩ := exists_realizedBlock snapshot hrealized
      unfold statementBlocks
      simp only [bind_eq_ok]
      exact ⟨_, _, ⟨income, hincome, realized, hrealized, rfl⟩, rfl⟩
  | _ => exact ⟨_, rfl⟩

end Results

end LotusReport.Rendering
