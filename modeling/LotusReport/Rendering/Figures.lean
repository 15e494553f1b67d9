import LotusReport.Decimals.Special
import LotusReport.Fallible.Checks
import LotusReport.Transactions.EarningsStatement

/-!
# Captured figures

A captured figure is a scalar of any kind. The blocks of a report read it as a
decimal and publish it with two places, or say that there is none.
-/

namespace LotusReport.Rendering

open Encoding Decimals Transactions Fallible

/-- `f"{value:.2f}"`. -/
def twoPlaces (d : Decimal) : String := fixedText 2 d

/-- What a builder raises: a number cannot be iterated over, or an operation signals. -/
inductive BuilderError where
  | typeError
  | signal (signal : Signal)
deriving DecidableEq

section Reading

variable (digitOf : Char → Option (Fin 10))

/-- `Decimal(str(value))` of a scalar; an integer of more than 4300 digits is not written. -/
def captured : Json → Option Number
  | .int n =>
      if 4300 < digitCount n.natAbs then none else some (.finite ⟨decide (n < 0), n.natAbs, 0⟩)
  | .float text | .str text => numberOf digitOf text
  | _ => none

/-- `contribution_decimal`. -/
def contributionDecimal (value : Json) : Option Decimal :=
  match captured digitOf value with
  | some (.finite d) => some d
  | _ => none

/-- `_pp`. -/
def pp (value : Json) : Except BuilderError (Option String) :=
  match captured digitOf value with
  | none => .ok none
  | some number =>
      match quantizeNumber workingContext (-2) number with
      | .ok quantized => .ok (some quantized.text)
      | .error signal => .error (.signal signal)

/-- `_money_text`. -/
def moneyText (value : Json) : Except BuilderError String :=
  (pp digitOf value).map fun shown => shown.getD "Not available"

end Reading

/-- Publish captured figures under their names. -/
def publishAll {β : Type} (publish : Json → Except BuilderError β) (figures : Fields) :
    Except BuilderError (List (String × β)) :=
  figures.mapM fun figure => (publish figure.2).map (Prod.mk figure.1)

section Names

/-- The securities of the holdings with their names, in the order in which they are entered. -/
def namedSecurities (snapshot : Fields) : List (String × String) :=
  let buckets := asDict (get (asDict (get snapshot "holdings")) "holdingsByAssetClass")
  buckets.flatMap fun bucket => (asList bucket.2).filterMap fun row =>
    (dict? row).bind fun fields =>
      let securityId := text (get fields "security_id")
      let name := if text (get fields "security_name") = "" then
        text (get fields "instrument_name") else text (get fields "security_name")
      if securityId = "" ∨ name = "" then none else some (securityId, name)

/-- `names.get(security_id) or security_id or "Not available"`; the last entry of a security
counts. -/
def readableName (names : List (String × String)) (securityId : String) : String :=
  match names.reverse.find? fun entry => entry.1 == securityId with
  | some (_, name) => name
  | none => if securityId = "" then "Not available" else securityId

/-- What a loop over `value or []` passes, unless the value is a number. -/
def iterated (value : Json) : Option (List Json) :=
  if value.truthy then
    match value with
    | .arr items => some items
    | .obj fields => some (fields.map fun f => .str f.1)
    | .str text => some (text.toList.map fun c => .str c.toString)
    | _ => none
  else some []

end Names

section Purpose

variable (digitOf : Char → Option (Fin 10))

/-- A text shows a decimal rounded to two places. -/
def Shows (d : Decimal) (shown : Option String) : Prop :=
  ∃ figure : Decimal, figure.exp = -2 ∧ figure.value = quantizeEven 2 d.value ∧
    shown = some (formatFixed figure)

/-- A figure shows the captured value, or nothing where no finite decimal is captured. -/
def Published (value : Json) (shown : Option String) : Prop :=
  match contributionDecimal digitOf value with
  | none => shown = none
  | some d => Shows d shown

/-- A figure with a marker where it shows nothing. -/
def PublishedAs (marker : String) (value : Json) (text : String) : Prop :=
  ∃ shown, Published digitOf value shown ∧ text = shown.getD marker

/-- A finite number that has at most 26 digits in front of the point at two places. -/
def Held : Number → Prop
  | .finite d => |quantizeEven 2 d.value| < 10 ^ 26
  | _ => False

instance : DecidablePred Held
  | .finite d => inferInstanceAs (Decidable (|quantizeEven 2 d.value| < 10 ^ 26))
  | .infinity _ => isFalse id
  | .nan .. => isFalse id

/-- What is captured as a number is held. -/
def Publishable (value : Json) : Prop := ∀ number ∈ captured digitOf value, Held number

instance (value : Json) : Decidable (Publishable digitOf value) :=
  inferInstanceAs (Decidable (∀ number ∈ captured digitOf value, Held number))

end Purpose

section Figures

variable {digitOf : Char → Option (Fin 10)} {value : Json}

theorem twoPlaces_shows (d : Decimal) : Shows d (some (twoPlaces d)) :=
  ⟨d.fixed 2, rfl, value_fixed d 2, rfl⟩

/-- What `f"{value:.2f}"` makes of a value is published, whatever digits that takes. -/
theorem published_twoPlaces (value : Json) :
    Published digitOf value ((contributionDecimal digitOf value).map twoPlaces) := by
  unfold Published
  cases contributionDecimal digitOf value with
  | none => rfl
  | some d => exact twoPlaces_shows d

theorem holds_two_iff (d : Decimal) :
    workingContext.Holds 2 (rescaleEven d (-(2 : Nat))) ↔ |quantizeEven 2 d.value| < 10 ^ 26 := by
  have hunits : |quantizeEven 2 d.value| = (rescaleEven d (-(2 : Nat)) : ℚ) / 10 ^ 2 := by
    rw [← value_fixed, ← magnitude_eq_abs]
    show (rescaleEven d (-(2 : Nat)) : ℚ) * (10 : ℚ) ^ (-((2 : Nat) : ℤ)) = _
    rw [zpow_neg, zpow_natCast, div_eq_mul_inv]
  have hholds : workingContext.Holds 2 (rescaleEven d (-(2 : Nat))) ↔
      rescaleEven d (-(2 : Nat)) < 10 ^ 28 := by
    constructor
    · intro h
      exact h.1
    · intro h
      exact ⟨h, lt_of_lt_of_le h (Nat.pow_le_pow_right (by decide) (by decide))⟩
  rw [hholds, hunits, div_lt_iff₀ (by norm_num), ← pow_add]
  exact_mod_cast Iff.rfl

theorem covers_two : workingContext.Covers 2 := by
  constructor
  · decide
  · decide
  · decide

/-- A finite figure is quantized exactly if it is held. -/
theorem quantizeNumber_finite (d : Decimal) : quantizeNumber workingContext (-2) (.finite d) =
    if |quantizeEven 2 d.value| < 10 ^ 26 then .ok (.finite (d.fixed 2))
    else .error .invalidOperation := by
  have hquantize : quantizeHalfEven workingContext d (-(2 : Nat)) = _ :=
    quantizeHalfEven_eq covers_two
  show (quantizeHalfEven workingContext d (-(2 : Nat))).map Number.finite = _
  rw [hquantize]
  by_cases hheld : |quantizeEven 2 d.value| < 10 ^ 26
  · rw [if_pos ((holds_two_iff d).mpr hheld), if_pos hheld]
    rfl
  · rw [if_neg (mt (holds_two_iff d).mp hheld), if_neg hheld]
    rfl

/-- A figure is published by `_pp` exactly if it is publishable. -/
theorem pp_iff : (∃ shown, pp digitOf value = .ok shown ∧ Published digitOf value shown) ↔
    Publishable digitOf value := by
  unfold Published Publishable contributionDecimal pp
  cases captured digitOf value with
  | none => simp
  | some number =>
      simp only [Option.mem_def, Option.some.injEq, forall_eq']
      cases number with
      | finite d =>
          dsimp only
          rw [quantizeNumber_finite]
          by_cases hheld : |quantizeEven 2 d.value| < 10 ^ 26
          · rw [if_pos hheld]
            exact iff_of_true ⟨_, rfl, twoPlaces_shows d⟩ hheld
          · rw [if_neg hheld]
            refine iff_of_false ?_ hheld
            rintro ⟨shown, hshown, -⟩
            cases hshown
      | infinity negative =>
          apply iff_of_false _ id
          rintro ⟨shown, hshown, -⟩
          cases hshown
      | nan negative signaling payload =>
          apply iff_of_false _ id
          rintro ⟨shown, hshown, hnone⟩
          cases signaling with
          | true => cases hshown
          | false =>
              rw [show shown = none from hnone] at hshown
              cases hshown

/-- The text of a value that is no number is not the marker. -/
theorem text_nan_ne (negative : Bool) (payload : Nat) :
    (Number.nan negative false payload).text ≠ "Not available" := by
  intro h
  have hsecond := congrArg (fun s => s.toList[1]?) h
  cases negative <;> simp [Number.text] at hsecond

/-- A figure is published by `_money_text` exactly if it is publishable. -/
theorem moneyText_iff : (∃ text, moneyText digitOf value = .ok text ∧
    PublishedAs digitOf "Not available" value text) ↔ Publishable digitOf value := by
  constructor
  · rintro ⟨text, htext, shown, hpublished, hmarker⟩ number hcaptured
    unfold moneyText pp at htext
    unfold Published contributionDecimal at hpublished
    rw [Option.mem_def] at hcaptured
    rw [hcaptured] at htext hpublished
    cases number with
    | finite d =>
        dsimp only at htext
        rw [quantizeNumber_finite] at htext
        by_contra hheld
        have hlarge : ¬ |quantizeEven 2 d.value| < 10 ^ 26 := hheld
        rw [if_neg hlarge] at htext
        cases htext
    | infinity negative => cases htext
    | nan negative signaling payload =>
        cases signaling with
        | true => cases htext
        | false =>
            rw [show shown = none from hpublished] at hmarker
            rw [hmarker] at htext
            exact absurd (Except.ok.inj htext) (text_nan_ne _ _)
  · intro h
    obtain ⟨shown, hshown, hpublished⟩ := pp_iff.mpr h
    unfold moneyText
    rw [hshown]
    exact ⟨_, rfl, shown, hpublished, rfl⟩

section Blocks

variable {β γ : Type} {publish : Json → Except BuilderError β} {figures figures' : Fields}
  {published published' : List (String × β)}

/-- The figures can all be published. -/
def AllPublish (publish : Json → Except BuilderError β) (figures : Fields) : Prop :=
  ∀ figure ∈ figures, ∃ shown, publish figure.2 = .ok shown

theorem allPublish_append : AllPublish publish (figures ++ figures') ↔
    AllPublish publish figures ∧ AllPublish publish figures' :=
  List.forall_mem_append

theorem exists_publishAll (h : AllPublish publish figures) :
    ∃ published, publishAll publish figures = .ok published := by
  apply exists_mapM_eq
  intro figure hfigure
  obtain ⟨shown, hshown⟩ := h figure hfigure
  exact ⟨(figure.1, shown), by rw [hshown]; rfl⟩

theorem publishAll_append (h : publishAll publish figures = .ok published)
    (h' : publishAll publish figures' = .ok published') :
    publishAll publish (figures ++ figures') = .ok (published ++ published') :=
  mapM_append_eq_ok h h'

theorem publishAll_flatMap {α ρ : Type} {build : α → Except BuilderError ρ}
    {captured : α → Fields} {shown : ρ → List (String × β)}
    (hrow : ∀ a row, build a = .ok row → publishAll publish (captured a) = .ok (shown row))
    {items : List α} {rows : List ρ} (h : items.mapM build = .ok rows) :
    publishAll publish (items.flatMap captured) = .ok (rows.flatMap shown) := by
  rw [mapM_eq_ok] at h
  induction h with
  | nil => rfl
  | cons ha _ ih => exact publishAll_append (hrow _ _ ha) ih

theorem exists_rows {α ρ : Type} {build : α → Except BuilderError ρ}
    {captured : α → Fields}
    (hrow : ∀ a, AllPublish publish (captured a) → ∃ row, build a = .ok row) {items : List α}
    (h : AllPublish publish (items.flatMap captured)) : ∃ rows, items.mapM build = .ok rows := by
  apply exists_mapM_eq
  intro a ha
  apply hrow
  intro figure hfigure
  exact h figure (List.mem_flatMap.mpr ⟨a, ha, hfigure⟩)

/-- A block that publishes its captured figures one by one publishes them well exactly if each of
them can be. -/
theorem published_iff {ρ : Type} {build : Except BuilderError ρ} {shown : ρ → List (String × β)}
    {related : Json → β → Prop} {admitted : Json → Prop}
    (hpublish : ∀ value, (∃ b, publish value = .ok b ∧ related value b) ↔ admitted value)
    (hbuild : ∀ block, build = .ok block → publishAll publish figures = .ok (shown block))
    (htotal : AllPublish publish figures → ∃ block, build = .ok block) :
    (∃ block, build = .ok block ∧ List.Forall₂ (fun figure text => text.1 = figure.1 ∧
      related figure.2 text.2) figures (shown block)) ↔ ∀ figure ∈ figures, admitted figure.2 := by
  have hlist : (∃ published, publishAll publish figures = .ok published ∧
      List.Forall₂ (fun figure text => text.1 = figure.1 ∧ related figure.2 text.2) figures published) ↔
        ∀ figure ∈ figures, admitted figure.2 := by
    rw [publishAll, mapM_related_iff]
    apply forall₂_congr
    intro figure hfigure
    rw [← hpublish]
    constructor
    · rintro ⟨text, htext, -, hrelated⟩
      obtain ⟨b, hb, rfl⟩ := map_eq_ok.mp htext
      exact ⟨b, hb, hrelated⟩
    · rintro ⟨b, hb, hrelated⟩
      exact ⟨(figure.1, b), map_eq_ok.mpr ⟨b, hb, rfl⟩, rfl, hrelated⟩
  rw [← hlist]
  constructor
  · rintro ⟨block, hblock, hrelated⟩
    exact ⟨shown block, hbuild block hblock, hrelated⟩
  · rintro ⟨published, hpublished, hrelated⟩
    obtain ⟨block, hblock⟩ := htotal fun figure hfigure =>
      ((hpublish figure.2).mpr (hlist.mp ⟨published, hpublished, hrelated⟩ figure hfigure)).imp
        fun _ hb => hb.1
    obtain rfl : shown block = published :=
      Except.ok.inj ((hbuild block hblock).symm.trans hpublished)
    exact ⟨block, hblock, hrelated⟩

end Blocks

end Figures

end LotusReport.Rendering
