import LotusReport.Rendering.Figures

/-!
# The attribution bridge

Why a portfolio did better than its benchmark: the effects of the groups of one
level, the totals that the source states and what remains. The figures are the
source's own; the bridge names them and publishes them with two places.
-/

namespace LotusReport.Rendering

open Encoding Transactions Fallible

section Model

/-- What every outcome of an ordered section states. -/
structure BridgeEnvelope where
  period : String
  benchmarkCode : Option String
  metricBasis : Option String
  notes : List StatementNote
deriving DecidableEq

structure EffectRow where
  groupingDimension : Option String
  level : Nat
  groupKey : Option String
  groupLabel : String
  figures : List (String × Option String)
deriving DecidableEq

structure Bridge where
  model : Option String
  linking : Option String
  groupingDimension : Option String
  level : Nat
  periodStatus : Option String
  effects : List EffectRow
  totals : List (String × Option String)
  reconciliation : List (String × Option String)
  residualClassification : Option String
  residualTreatment : Option String
  periodNotes : List StatementNote
deriving DecidableEq

/-- What `build_attribution_bridge` returns. -/
inductive BridgeOutcome where
  | notOrdered
  | pending (envelope : BridgeEnvelope) (calculationId : Option String)
  | unavailable (envelope : BridgeEnvelope)
  | ready (envelope : BridgeEnvelope) (bridge : Bridge)
deriving DecidableEq

/-- `_PRESENTED_PERIOD`. -/
def presentedPeriod : String := "YTD"

/-- The entries of `value or []` that are dictionaries. -/
def dictionaries (value : Json) : Except BuilderError (List Fields) :=
  match iterated value with
  | none => .error .typeError
  | some entries => .ok (entries.filterMap dict?)

/-- The captured figures of a group, by the names under which they are published. -/
def effectFigures (group : Fields) : Fields :=
  [("allocation_pp", get group "allocation"),
    ("selection_pp", get group "selection"),
    ("interaction_pp", get group "interaction"),
    ("total_effect_pp", get group "total_effect"),
    ("portfolio_weight_avg_pct", get group "portfolio_weight_avg"),
    ("benchmark_weight_avg_pct", get group "benchmark_weight_avg"),
    ("portfolio_return_pp", get group "portfolio_return"),
    ("benchmark_return_pp", get group "benchmark_return")]

def totalFigures (level : Fields) : Fields :=
  [("allocation_pp", get level "allocation_total_pct"),
    ("selection_pp", get level "selection_total_pct"),
    ("interaction_pp", get level "interaction_total_pct"),
    ("total_effect_pp", get level "total_effect_pct")]

def reconciliationFigures (reconciliation : Fields) : Fields :=
  [("total_active_return_pp", get reconciliation "total_active_return"),
    ("sum_of_effects_pp", get reconciliation "sum_of_effects"),
    ("residual_pp", get reconciliation "residual")]

/-- `_first_level`. -/
def firstLevel (period : Fields) : Option Fields :=
  (asList (get period "levels")).findSome? dict?

/-- The presented period and its first level, where the attribution is present. -/
def presentedLevel (attribution : Fields) :
    Option (Fields × Fields) :=
  let period := asDict (get (asDict (get attribution "results_by_period")) presentedPeriod)
  if text (get attribution "status") ≠ "present" ∨ period = [] then none
  else (firstLevel period).map (Prod.mk period)

variable (digitOf : Char → Option (Fin 10)) (title : String → String)

/-- `_effect_row`. -/
def effectRow (dimension : Option String) (group : Fields) :
    Except BuilderError EffectRow := do
  let key := asDict (get group "key")
  let rawLabel := match dimension with
    | some dimension => text (get key dimension)
    | none => ""
  let figures ← publishAll (pp digitOf) (effectFigures group)
  return {
    groupingDimension := dimension
    level := 1
    groupKey := if rawLabel = "" then none else some rawLabel
    groupLabel := if rawLabel = "" then "Not available"
      else title (rawLabel.map fun c => if c = '_' then ' ' else c)
    figures := figures }

/-- The bridge of a period, over its first level. -/
def bridgeOf (attribution period level : Fields) : Except BuilderError Bridge := do
  let reconciliation := asDict (get period "reconciliation")
  let materiality := asDict (get reconciliation "residual_materiality")
  let dimension := textOrNone (get level "dimension")
  let groups ← dictionaries (get level "groups")
  let effects ← groups.mapM (effectRow digitOf title dimension)
  let totals ← publishAll (pp digitOf) (totalFigures level)
  let reconciled ← publishAll (pp digitOf) (reconciliationFigures reconciliation)
  let reasons ← dictionaries (get period "reasons")
  return {
    model := textOrNone (get attribution "model")
    linking := textOrNone (get attribution "linking")
    groupingDimension := dimension
    level := 1
    periodStatus := textOrNone (get period "status")
    effects := effects
    totals := totals
    reconciliation := reconciled
    residualClassification := textOrNone (get materiality "classification")
    residualTreatment := textOrNone (get materiality "treatment")
    periodNotes := statementNotes reasons }

/-- `build_attribution_bridge`. -/
def buildAttributionBridge (snapshot : Fields) : Except BuilderError BridgeOutcome :=
  let attribution := asDict (get snapshot "attribution")
  if attribution = [] then .ok .notOrdered
  else do
    let request := asDict (get attribution "request")
    let notes ← dictionaries (get (asDict (get attribution "supportability")) "notes")
    let envelope : BridgeEnvelope := {
      period := presentedPeriod
      benchmarkCode := textOrNone (get request "benchmark_code")
      metricBasis := textOrNone (get request "metric_basis")
      notes := statementNotes notes }
    if text (get attribution "status") = "pending" then
      return .pending envelope
        (textOrNone (get (asDict (get attribution "accepted")) "calculation_id"))
    else
      match presentedLevel attribution with
      | none => return .unavailable envelope
      | some (period, level) =>
          let bridge ← bridgeOf digitOf title attribution period level
          let resolved := textOrNone (get (asDict (get attribution "benchmark_context")) "benchmark_id")
          return .ready { envelope with benchmarkCode := resolved.or envelope.benchmarkCode } bridge

end Model

section Purpose

/-- The figures of a bridge, in the order in which they are published. -/
def Bridge.figures (bridge : Bridge) : List (String × Option String) :=
  bridge.effects.flatMap EffectRow.figures ++ bridge.totals ++ bridge.reconciliation

def BridgeOutcome.figures : BridgeOutcome → List (String × Option String)
  | .ready _ bridge => bridge.figures
  | _ => []

/-- The groups of a level. -/
def groupsOf (level : Fields) : List Fields :=
  (asList (get level "groups")).filterMap dict?

/-- The captured figures that a bridge publishes. -/
def bridgeFigures (snapshot : Fields) : Fields :=
  match presentedLevel (asDict (get snapshot "attribution")) with
  | none => []
  | some (period, level) =>
      (groupsOf level).flatMap effectFigures ++ totalFigures level ++
        reconciliationFigures (asDict (get period "reconciliation"))

/-- A value is a list or absent. -/
def ListOrAbsent (value : Json) : Prop := value = .null ∨ ∃ items, value = .arr items

/-- What the bridge iterates over are lists or absent. -/
structure BridgeLists (snapshot : Fields) : Prop where
  notes : ListOrAbsent (get (asDict (get (asDict (get snapshot "attribution")) "supportability")) "notes")
  groups : ∀ period level, presentedLevel (asDict (get snapshot "attribution")) = some (period, level) →
    ListOrAbsent (get level "groups")
  reasons : ∀ period level, presentedLevel (asDict (get snapshot "attribution")) = some (period, level) →
    ListOrAbsent (get period "reasons")

end Purpose

section Results

variable {digitOf : Char → Option (Fin 10)} {title : String → String}
  {snapshot : Fields}

theorem ListOrAbsent.dictionaries {value : Json} (h : ListOrAbsent value) :
    dictionaries value = .ok ((asList value).filterMap dict?) := by
  rcases h with rfl | ⟨items, rfl⟩
  · rfl
  · cases items with
    | nil => rfl
    | cons item items => rfl

theorem effectRow_ok {dimension : Option String} {group : Fields} {row : EffectRow}
    (h : effectRow digitOf title dimension group = .ok row) :
    publishAll (pp digitOf) (effectFigures group) = .ok row.figures := by
  unfold effectRow at h
  obtain ⟨figures, hfigures, hrow⟩ := bind_eq_ok.mp h
  cases hrow
  exact hfigures

theorem exists_effectRow (title : String → String) (dimension : Option String)
    (group : Fields)
    (h : AllPublish (pp digitOf) (effectFigures group)) :
    ∃ row, effectRow digitOf title dimension group = .ok row := by
  obtain ⟨figures, hfigures⟩ := exists_publishAll h
  unfold effectRow
  rw [hfigures]
  exact ⟨_, rfl⟩

variable {attribution period level : Fields}

theorem bridgeOf_ok (hgroups : ListOrAbsent (get level "groups")) {bridge : Bridge}
    (h : bridgeOf digitOf title attribution period level = .ok bridge) :
    publishAll (pp digitOf) ((groupsOf level).flatMap effectFigures ++ totalFigures level ++
      reconciliationFigures (asDict (get period "reconciliation"))) = .ok bridge.figures := by
  unfold bridgeOf at h
  simp only [hgroups.dictionaries, bind_eq_ok] at h
  obtain ⟨groups, hgroups, effects, heffects, totals, htotals, reconciled, hreconciled, reasons,
    hreasons, hbridge⟩ := h
  cases hgroups
  cases hbridge
  apply publishAll_append _ hreconciled
  apply publishAll_append _ htotals
  exact publishAll_flatMap (fun _ _ hrow => effectRow_ok hrow) heffects

theorem exists_bridgeOf (hgroups : ListOrAbsent (get level "groups"))
    (hreasons : ListOrAbsent (get period "reasons"))
    (h : AllPublish (pp digitOf) ((groupsOf level).flatMap effectFigures ++ totalFigures level ++
      reconciliationFigures (asDict (get period "reconciliation")))) :
    ∃ bridge, bridgeOf digitOf title attribution period level = .ok bridge := by
  rw [allPublish_append, allPublish_append] at h
  obtain ⟨⟨heffects, htotals⟩, hreconciled⟩ := h
  obtain ⟨effects, heffects⟩ := exists_rows
    (exists_effectRow title (textOrNone (get level "dimension"))) heffects
  obtain ⟨totals, htotals⟩ := exists_publishAll htotals
  obtain ⟨reconciled, hreconciled⟩ := exists_publishAll hreconciled
  unfold bridgeOf
  simp only [hgroups.dictionaries, hreasons.dictionaries, bind_eq_ok]
  exact ⟨_, _, rfl, effects, heffects, totals, htotals, reconciled, hreconciled, _, rfl, rfl⟩

/-- Without a presented level no figure is published. -/
theorem presentedLevel_none (h : text (get attribution "status") ≠ "present") :
    presentedLevel attribution = none := by
  unfold presentedLevel
  exact if_pos (Or.inl h)

theorem buildAttributionBridge_ok (hlists : BridgeLists snapshot) {outcome : BridgeOutcome}
    (h : buildAttributionBridge digitOf title snapshot = .ok outcome) :
    publishAll (pp digitOf) (bridgeFigures snapshot) = .ok outcome.figures := by
  have hgroups := hlists.groups
  unfold buildAttributionBridge at h
  unfold bridgeFigures
  dsimp only at h
  generalize asDict (get snapshot "attribution") = attribution at h hgroups ⊢
  split at h
  · rename_i hnil
    subst hnil
    cases h
    rfl
  · obtain ⟨notes, -, h⟩ := bind_eq_ok.mp h
    split at h
    · rename_i hpending
      cases h
      rw [presentedLevel_none (by rw [hpending]; decide)]
      rfl
    · cases hlevel : presentedLevel attribution with
      | none =>
          rw [hlevel] at h
          cases h
          rfl
      | some presented =>
          obtain ⟨period, level⟩ := presented
          rw [hlevel] at h
          obtain ⟨bridge, hbridge, h⟩ := bind_eq_ok.mp h
          cases h
          exact bridgeOf_ok (hgroups period level hlevel) hbridge

theorem exists_buildAttributionBridge (hlists : BridgeLists snapshot)
    (h : AllPublish (pp digitOf) (bridgeFigures snapshot)) :
    ∃ outcome, buildAttributionBridge digitOf title snapshot = .ok outcome := by
  have hnotes := hlists.notes
  have hgroups := hlists.groups
  have hreasons := hlists.reasons
  unfold buildAttributionBridge
  unfold bridgeFigures at h
  dsimp only
  generalize asDict (get snapshot "attribution") = attribution at h hnotes hgroups hreasons ⊢
  split
  · exact ⟨_, rfl⟩
  · rw [hnotes.dictionaries]
    simp only [bind_eq_ok]
    split
    · exact ⟨_, _, rfl, rfl⟩
    · cases hlevel : presentedLevel attribution with
      | none => exact ⟨_, _, rfl, rfl⟩
      | some presented =>
          obtain ⟨period, level⟩ := presented
          rw [hlevel] at h
          obtain ⟨bridge, hbridge⟩ := exists_bridgeOf (hgroups period level hlevel) (hreasons period level hlevel) h
          exact ⟨_, _, rfl, bind_eq_ok.mpr ⟨bridge, hbridge, rfl⟩⟩

end Results

end LotusReport.Rendering
