import LotusReport.Composite.Horizon

/-!
# Payloads of selections

A payload that is not accepted is refused, with one exception: the adjacency
loop of the windows steps to the day after a window, and overflows where a
window before the last one ends the calendar.
-/

namespace LotusReport.Composite

open Encoding Fallible

section Refusals

variable {α β : Type}

/-- The validation does not overflow: where it fails, it refuses. -/
def Refusing (x : Except Invalid α) : Prop := x ≠ .error .overflow

theorem refusing_iff {x : Except Invalid α} : Refusing x ↔ ∀ e, x = .error e → e = .refused := by
  constructor
  · rintro h e rfl
    cases e with
    | refused => rfl
    | overflow => exact absurd rfl h
  · intro h heq
    cases h _ heq

theorem refusing_ok (a : α) : Refusing (.ok a : Except Invalid α) := by
  rintro ⟨⟩

theorem refusing_refused : Refusing (.error .refused : Except Invalid α) := by
  rintro ⟨⟩

/-- Behind a part that only refuses, an overflow comes from the rest. -/
theorem bind_eq_overflow {x : Except Invalid α} {g : α → Except Invalid β} (h : Refusing x) :
    (x >>= g) = .error .overflow ↔ ∃ a, x = .ok a ∧ g a = .error .overflow := by
  rw [bind_eq_error]
  exact or_iff_right h

theorem Refusing.bind {x : Except Invalid α} {g : α → Except Invalid β} (h : Refusing x)
    (hg : ∀ a, x = .ok a → Refusing (g a)) : Refusing (x >>= g) := by
  intro heq
  obtain ⟨a, ha, hrest⟩ := (bind_eq_overflow h).mp heq
  exact hg a ha hrest

theorem refusing_fieldsOf (j : Json) : Refusing (fieldsOf j) := by
  cases j <;> rintro ⟨⟩

theorem refusing_forbidExtra (names : List String) (fields : Fields) :
    Refusing (forbidExtra names fields) := by
  unfold forbidExtra
  split
  · exact refusing_ok _
  · exact refusing_refused

theorem refusing_required {fields : Fields} {name : String}
    {validate : Json → Except Invalid α} (h : ∀ value, Refusing (validate value)) :
    Refusing (required fields name validate) := by
  unfold required
  split
  · exact h _
  · exact refusing_refused

theorem refusing_converted (value : Option α) : Refusing (converted value) := by
  cases value with
  | none => exact refusing_refused
  | some a => exact refusing_ok a

theorem refusing_conversion (fields : Fields) (name : String)
    (convert : Json → Option α) : Refusing (required fields name (converted ∘ convert)) :=
  refusing_required fun value => refusing_converted (convert value)

theorem refusing_textWith (constraint : String → Bool) (value : Json) :
    Refusing (textWith constraint value) := by
  unfold textWith
  split
  · split
    · exact refusing_ok _
    · exact refusing_refused
  · exact refusing_refused

theorem refusing_intWith (constraint : Int → Bool) (value : Json) :
    Refusing (intWith constraint value) := by
  unfold intWith
  split
  · split
    · exact refusing_ok _
    · exact refusing_refused
  · exact refusing_refused

theorem refusing_mapM {items : List α} {convert : α → Except Invalid β}
    (h : ∀ a, Refusing (convert a)) : Refusing (items.mapM convert) := by
  induction items with
  | nil => exact refusing_ok _
  | cons a items ih =>
      rw [List.mapM_cons]
      apply (h a).bind
      intro b _
      apply ih.bind
      intro bs _
      exact refusing_ok _

theorem refusing_listWith (least most : Nat) {validate : Json → Except Invalid α}
    (h : ∀ value, Refusing (validate value)) (value : Json) :
    Refusing (listWith least most validate value) := by
  unfold listWith
  split
  · split
    · exact refusing_mapM h
    · exact refusing_refused
  · exact refusing_refused

theorem refusing_textEntries (fields : Fields) : Refusing (textEntries fields) := by
  apply refusing_mapM
  intro f
  have htext := refusing_textWith (fun _ => true) f.2
  cases hvalue : textWith (fun _ => true) f.2 with
  | ok text => exact refusing_ok _
  | error e =>
      rw [hvalue] at htext
      cases e with
      | refused => exact refusing_refused
      | overflow => exact absurd rfl htext

theorem refusing_feeView (value : Json) : Refusing (FeeView.validate value) := by
  unfold FeeView.validate
  split
  · exact refusing_ok _
  · exact refusing_ok _
  · exact refusing_ok _
  · exact refusing_refused

variable (co : Coercions)

theorem refusing_window (j : Json) : Refusing (CompositeWindowPin.validate co j) := by
  unfold CompositeWindowPin.validate
  refine (refusing_fieldsOf j).bind fun fields _ => ?_
  refine (refusing_forbidExtra _ fields).bind fun _ _ => ?_
  refine (refusing_conversion fields _ _).bind fun _ _ => ?_
  refine (refusing_conversion fields _ _).bind fun _ _ => ?_
  refine (refusing_conversion fields _ _).bind fun _ _ => ?_
  refine (refusing_required (refusing_intWith _)).bind fun _ _ => ?_
  refine (refusing_required (refusing_textWith _)).bind fun _ _ => ?_
  refine (refusing_required (refusing_textWith _)).bind fun _ _ => ?_
  refine (refusing_required (refusing_textWith _)).bind fun _ _ => ?_
  refine (refusing_required (refusing_textWith _)).bind fun _ _ => ?_
  refine (refusing_required fun value =>
    (refusing_fieldsOf value).bind fun entries _ => refusing_textEntries entries).bind fun _ _ => ?_
  refine (refusing_required (refusing_textWith _)).bind fun _ _ => ?_
  split
  · exact refusing_ok _
  · exact refusing_refused

end Refusals

section Selections

variable (co : Coercions)

/-- The period and the windows of a payload whose fields are all valid. -/
def selectionVector (j : Json) : Except Invalid (Date × Date × List CompositeWindowPin) := do
  let fields ← fieldsOf j
  forbidExtra ["tenant_id", "composite_id", "calculation_id", "period_start", "period_end",
    "reporting_currency", "return_view", "methodology", "engine_version",
    "calculation_fingerprint", "response_digest", "windows"] fields
  let _ ← required fields "tenant_id" (textWith isIdentifier)
  let _ ← required fields "composite_id" (textWith isIdentifier)
  let _ ← required fields "calculation_id" (converted ∘ co.uuid)
  let periodStart ← required fields "period_start" (converted ∘ co.date)
  let periodEnd ← required fields "period_end" (converted ∘ co.date)
  let _ ← required fields "reporting_currency" (textWith isCurrency)
  let _ ← required fields "return_view" FeeView.validate
  let _ ← required fields "methodology" (textWith isIdentifier)
  let _ ← required fields "engine_version" (textWith isIdentifier)
  let _ ← required fields "calculation_fingerprint" (textWith isDigest)
  let _ ← required fields "response_digest" (textWith isDigest)
  let windows ← required fields "windows" (listWith 1 120 (CompositeWindowPin.validate co))
  return (periodStart, periodEnd, windows)

/-- The adjacency loop reaches a window before the last one that ends the calendar. -/
def Overruns (windows : List CompositeWindowPin) : Prop :=
  ∃ first w next rest, windows = first ++ w :: next :: rest ∧
    contiguous (first ++ [w]) = .ok true ∧ w.periodEnd.1 = ⟨9999, 12, 31⟩

/-- The payload is valid up to its adjacency loop, and the loop overruns the calendar. -/
def selectionOverruns (j : Json) : Prop :=
  ∃ periodStart periodEnd windows, selectionVector co j = .ok (periodStart, periodEnd, windows) ∧
    (windows.map (·.materializationId)).Nodup ∧ covers windows periodStart periodEnd = true ∧
    Overruns windows

theorem overruns_cons {v w : CompositeWindowPin} {windows : List CompositeWindowPin} {day : Date}
    (hnext : v.periodEnd.next? = some day) :
    Overruns (v :: w :: windows) ↔ w.periodStart = day ∧ Overruns (w :: windows) := by
  constructor
  · rintro ⟨first, u, next, rest, hwindows, hchain, hend⟩
    cases first with
    | nil =>
        rw [List.nil_append, List.cons.injEq] at hwindows
        have hnone := (Date.next?_eq_none_iff v.periodEnd).mpr (hwindows.1 ▸ hend)
        rw [hnone] at hnext
        cases hnext
    | cons v' first =>
        rw [List.cons_append, List.cons.injEq] at hwindows
        obtain ⟨rfl, htail⟩ := hwindows
        -- the loop compares the first pair before it goes on
        have hfirst : w.periodStart = day ∧ contiguous (first ++ [u]) = .ok true := by
          cases first with
          | nil =>
              rw [List.nil_append, List.cons.injEq] at htail
              obtain ⟨rfl, -⟩ := htail
              simp only [List.nil_append, List.cons_append, contiguous, hnext] at hchain ⊢
              split at hchain
              · rename_i hstart
                exact ⟨hstart, trivial⟩
              · cases hchain
          | cons w' first =>
              rw [List.cons_append, List.cons.injEq] at htail
              obtain ⟨rfl, -⟩ := htail
              simp only [List.cons_append, contiguous, hnext] at hchain ⊢
              split at hchain
              · rename_i hstart
                exact ⟨hstart, hchain⟩
              · cases hchain
        exact ⟨hfirst.1, first, u, next, rest, htail, hfirst.2, hend⟩
  · rintro ⟨hstart, first, u, next, rest, hwindows, hchain, hend⟩
    refine ⟨v :: first, u, next, rest, by rw [hwindows]; rfl, ?_, hend⟩
    cases first with
    | nil =>
        rw [List.nil_append, List.cons.injEq] at hwindows
        obtain ⟨rfl, -⟩ := hwindows
        simp [contiguous, hnext, hstart]
    | cons w' first =>
        rw [List.cons_append, List.cons.injEq] at hwindows
        obtain ⟨rfl, -⟩ := hwindows
        simp only [List.cons_append, contiguous, hnext, hstart, if_true]
        exact hchain

/-- The adjacency loop overflows exactly when it overruns the calendar. -/
theorem contiguous_eq_overflow_iff {windows : List CompositeWindowPin} :
    contiguous windows = .error .overflow ↔ Overruns windows := by
  induction windows with
  | nil =>
      constructor
      · rintro ⟨⟩
      · rintro ⟨first, w, next, rest, hwindows, -⟩
        simp at hwindows
  | cons v windows ih =>
      cases windows with
      | nil =>
          constructor
          · rintro ⟨⟩
          · rintro ⟨first, w, next, rest, hwindows, -⟩
            have hlength := congrArg List.length hwindows
            rw [List.length_append, List.length_cons, List.length_cons, List.length_cons,
              List.length_nil] at hlength
            omega
      | cons w windows =>
          cases hnext : v.periodEnd.next? with
          | none =>
              have hend := (Date.next?_eq_none_iff v.periodEnd).mp hnext
              simp only [contiguous, hnext, true_iff]
              exact ⟨[], v, w, windows, rfl, rfl, hend⟩
          | some day =>
              rw [overruns_cons hnext]
              simp only [contiguous, hnext]
              by_cases hstart : w.periodStart = day
              · rw [if_pos hstart, ih]
                exact (and_iff_right hstart).symm
              · rw [if_neg hstart]
                simp [hstart]

theorem textWith_eq_ok {constraint : String → Bool} {value : Json} {text : String}
    (h : textWith constraint value = .ok text) : constraint text = true := by
  unfold textWith at h
  split at h
  · split at h
    · rename_i hmeets
      cases h
      exact hmeets
    · cases h
  · cases h

theorem length_of_listWith {α : Type} {least most : Nat} {validate : Json → Except Invalid α}
    {value : Json} {items : List α} (h : listWith least most validate value = .ok items) :
    least ≤ items.length ∧ items.length ≤ most := by
  unfold listWith at h
  split at h
  · split at h
    · rename_i hlength
      rwa [← (mapM_eq_ok.mp h).length_eq]
    · cases h
  · cases h

theorem required_eq_ok {α : Type} {fields : Fields} {name : String}
    {validate : Json → Except Invalid α} {a : α} (h : required fields name validate = .ok a) :
    ∃ value, validate value = .ok a := by
  unfold required at h
  split at h
  · exact ⟨_, h⟩
  · cases h

theorem text_of_required {fields : Fields} {name text : String}
    {constraint : String → Bool} (h : required fields name (textWith constraint) = .ok text) :
    constraint text = true := by
  obtain ⟨value, hvalue⟩ := required_eq_ok h
  exact textWith_eq_ok hvalue

/-- A selection payload overflows exactly when its adjacency loop overruns the calendar. -/
theorem selection_overflow_iff (j : Json) :
    CompositeReportSelection.validate co j = .error .overflow ↔ selectionOverruns co j := by
  constructor
  · intro h
    unfold CompositeReportSelection.validate at h
    obtain ⟨fields, hfields, h⟩ := (bind_eq_overflow (refusing_fieldsOf j)).mp h
    obtain ⟨_, hforbid, h⟩ := (bind_eq_overflow (refusing_forbidExtra _ _)).mp h
    obtain ⟨_, htenant, h⟩ := (bind_eq_overflow (refusing_required (refusing_textWith _))).mp h
    obtain ⟨_, hcomposite, h⟩ := (bind_eq_overflow (refusing_required (refusing_textWith _))).mp h
    obtain ⟨_, hcalculation, h⟩ :=
      (bind_eq_overflow (refusing_conversion _ _ _)).mp h
    obtain ⟨periodStart, hstart, h⟩ :=
      (bind_eq_overflow (refusing_conversion _ _ _)).mp h
    obtain ⟨periodEnd, hend, h⟩ :=
      (bind_eq_overflow (refusing_conversion _ _ _)).mp h
    obtain ⟨_, hcurrency, h⟩ := (bind_eq_overflow (refusing_required (refusing_textWith _))).mp h
    obtain ⟨_, hview, h⟩ := (bind_eq_overflow (refusing_required refusing_feeView)).mp h
    obtain ⟨_, hmethodology, h⟩ := (bind_eq_overflow (refusing_required (refusing_textWith _))).mp h
    obtain ⟨_, hengine, h⟩ := (bind_eq_overflow (refusing_required (refusing_textWith _))).mp h
    obtain ⟨_, hfingerprint, h⟩ := (bind_eq_overflow (refusing_required (refusing_textWith _))).mp h
    obtain ⟨_, hdigest, h⟩ := (bind_eq_overflow (refusing_required (refusing_textWith _))).mp h
    obtain ⟨windows, hwindows, h⟩ := (bind_eq_overflow (refusing_required
      (refusing_listWith 1 120 (refusing_window co)))).mp h
    split at h
    · split at h
      · rename_i hvector
        split at h
        · rename_i e hchained
          cases h
          refine ⟨periodStart, periodEnd, windows, ?_, hvector.1, hvector.2,
            contiguous_eq_overflow_iff.mp hchained⟩
          unfold selectionVector
          simp only [hfields, hforbid, htenant, hcomposite, hcalculation, hstart, hend, hcurrency,
            hview, hmethodology, hengine, hfingerprint, hdigest, hwindows, bind, Except.bind, pure,
            Except.pure]
        · cases h
        · cases h
      · cases h
    · cases h
  · rintro ⟨periodStart, periodEnd, windows, hvector, hunique, hcovers, hoverruns⟩
    unfold selectionVector at hvector
    obtain ⟨fields, hfields, hvector⟩ := bind_eq_ok.mp hvector
    obtain ⟨_, hforbid, hvector⟩ := bind_eq_ok.mp hvector
    obtain ⟨_, htenant, hvector⟩ := bind_eq_ok.mp hvector
    obtain ⟨_, hcomposite, hvector⟩ := bind_eq_ok.mp hvector
    obtain ⟨_, hcalculation, hvector⟩ := bind_eq_ok.mp hvector
    obtain ⟨_, hstart, hvector⟩ := bind_eq_ok.mp hvector
    obtain ⟨_, hend, hvector⟩ := bind_eq_ok.mp hvector
    obtain ⟨_, hcurrency, hvector⟩ := bind_eq_ok.mp hvector
    obtain ⟨_, hview, hvector⟩ := bind_eq_ok.mp hvector
    obtain ⟨_, hmethodology, hvector⟩ := bind_eq_ok.mp hvector
    obtain ⟨_, hengine, hvector⟩ := bind_eq_ok.mp hvector
    obtain ⟨_, hfingerprint, hvector⟩ := bind_eq_ok.mp hvector
    obtain ⟨_, hdigest, hvector⟩ := bind_eq_ok.mp hvector
    obtain ⟨_, hwindows, hvector⟩ := bind_eq_ok.mp hvector
    cases hvector
    obtain ⟨value, hvalue⟩ := required_eq_ok hwindows
    have hlength := length_of_listWith hvalue
    have hchained := contiguous_eq_overflow_iff.mpr hoverruns
    unfold CompositeReportSelection.validate
    simp only [hfields, hforbid, htenant, hcomposite, hcalculation, hstart, hend, hcurrency,
      hview, hmethodology, hengine, hfingerprint, hdigest, hwindows, bind, Except.bind]
    rw [dif_pos ⟨by
      intro text htext
      simp only [List.mem_cons, List.not_mem_nil, or_false] at htext
      rcases htext with rfl | rfl | rfl | rfl
      · exact text_of_required htenant
      · exact text_of_required hcomposite
      · exact text_of_required hmethodology
      · exact text_of_required hengine, text_of_required hcurrency, by
      intro text htext
      simp only [List.mem_cons, List.not_mem_nil, or_false] at htext
      rcases htext with rfl | rfl
      · exact text_of_required hfingerprint
      · exact text_of_required hdigest, hlength.1, hlength.2⟩, dif_pos ⟨hunique, hcovers⟩]
    split
    · rename_i e herror
      rw [hchained] at herror
      cases herror
      rfl
    · rename_i hfalse
      rw [hchained] at hfalse
      cases hfalse
    · rename_i htrue
      rw [hchained] at htrue
      cases htrue

end Selections

section Products

variable (co : Coercions)

/-- The payload of a product names its kind, and its selection overruns the calendar. -/
def productOverruns (j : Json) : Prop :=
  ∃ fields kind selection, j = .obj fields ∧ Json.lookup fields "kind" = some (.str kind) ∧
    kind ∈ ["CALENDAR_RETURN", "TRAILING_RETURN"] ∧
    Json.lookup fields "selection" = some selection ∧ selectionOverruns co selection

theorem refusing_build (productKey : String) (span : ProductSpan)
    (selection : CompositeReportSelection) :
    Refusing (ReturnProductSelection.build productKey span selection) := by
  unfold ReturnProductSelection.build
  split
  · exact refusing_ok _
  · exact refusing_refused

theorem refusing_product (fields : Fields) (names : List String) (name : String)
    (constraint : Int → Bool) (span : Int → ProductSpan) (selection : CompositeReportSelection) :
    Refusing (do
      forbidExtra names fields
      ReturnProductSelection.build (← required fields "product_key" (textWith isProductKey))
        (span (← required fields name (intWith constraint))) selection) := by
  apply (refusing_forbidExtra names fields).bind
  intro _ _
  apply (refusing_required (refusing_textWith _)).bind
  intro key _
  apply (refusing_required (refusing_intWith _)).bind
  intro number _
  exact refusing_build key (span number) selection

theorem required_overflow_iff {α : Type} {fields : Fields} {name : String}
    {validate : Json → Except Invalid α} :
    required fields name validate = .error .overflow ↔
      ∃ value, Json.lookup fields name = some value ∧ validate value = .error .overflow := by
  unfold required
  cases Json.lookup fields name with
  | none => simp
  | some value => simp

theorem fieldsOf_eq_ok {j : Json} {fields : Fields} :
    fieldsOf j = .ok fields ↔ j = .obj fields := by
  cases j <;> simp [fieldsOf]

theorem selection_bind_overflow_iff {fields : Fields}
    {rest : CompositeReportSelection → Except Invalid ReturnProductSelection}
    (hrest : ∀ s, Refusing (rest s)) :
    ((required fields "selection" (CompositeReportSelection.validate co)) >>= rest) =
        .error .overflow ↔
      ∃ value, Json.lookup fields "selection" = some value ∧ selectionOverruns co value := by
  rw [bind_eq_error, required_overflow_iff]
  simp only [selection_overflow_iff]
  exact or_iff_left fun ⟨s, _, h⟩ => hrest s h

theorem product_overflow_iff (j : Json) :
    ReturnProductSelection.validate co j = .error .overflow ↔ productOverruns co j := by
  unfold ReturnProductSelection.validate
  rw [bind_eq_overflow (refusing_fieldsOf j)]
  constructor
  · rintro ⟨fields, hfields, h⟩
    have hobj := fieldsOf_eq_ok.mp hfields
    split at h
    · rename_i hkind
      obtain ⟨value, hvalue, hoverruns⟩ := (selection_bind_overflow_iff co
        (refusing_product fields _ _ _ ProductSpan.calendarYear)).mp h
      exact ⟨fields, _, value, hobj, hkind, by decide, hvalue, hoverruns⟩
    · rename_i hkind
      obtain ⟨value, hvalue, hoverruns⟩ := (selection_bind_overflow_iff co
        (refusing_product fields _ _ _ ProductSpan.trailingMonths)).mp h
      exact ⟨fields, _, value, hobj, hkind, by decide, hvalue, hoverruns⟩
    · cases h
  · rintro ⟨fields, kind, value, hobj, hkind, hkinds, hvalue, hoverruns⟩
    refine ⟨fields, fieldsOf_eq_ok.mpr hobj, ?_⟩
    rw [hkind]
    simp only [List.mem_cons, List.not_mem_nil, or_false] at hkinds
    rcases hkinds with rfl | rfl
    · exact (selection_bind_overflow_iff co
        (refusing_product fields _ _ _ ProductSpan.calendarYear)).mpr ⟨value, hvalue, hoverruns⟩
    · exact (selection_bind_overflow_iff co
        (refusing_product fields _ _ _ ProductSpan.trailingMonths)).mpr ⟨value, hvalue, hoverruns⟩

/-- The payloads of a primary selection and of its return products are handled: what is accepted
divides its horizon, products are drawn from the primary selection, and the rest is refused. -/
structure PayloadsHandled (primary : Json) (products : List Json) : Prop where
  primaryRefused : ∀ e, CompositeReportSelection.validate co primary = .error e → e = .refused
  productsRefused : ∀ product ∈ products, ∀ e,
    ReturnProductSelection.validate co product = .error e → e = .refused
  partitioned : ∀ s, CompositeReportSelection.validate co primary = .ok s → s.Partitioned
  drawn : ∀ s accepted, CompositeReportSelection.validate co primary = .ok s →
    products.mapM (ReturnProductSelection.validate co) = .ok accepted →
    requireProductScope s accepted = true →
    ∀ product ∈ accepted, product.selection.Partitioned ∧ product.DrawnFrom s

/-- The payloads are handled exactly when no selection among them overruns the calendar. -/
theorem payloadsHandled_iff (primary : Json) (products : List Json) :
    PayloadsHandled co primary products ↔
      ¬ selectionOverruns co primary ∧ ∀ product ∈ products, ¬ productOverruns co product := by
  constructor
  · intro h
    constructor
    · intro hoverruns
      cases h.primaryRefused _ ((selection_overflow_iff co primary).mpr hoverruns)
    · intro product hproduct hoverruns
      cases h.productsRefused product hproduct _ ((product_overflow_iff co product).mpr hoverruns)
  · rintro ⟨hprimary, hproducts⟩
    constructor
    · apply refusing_iff.mp
      exact fun h => hprimary ((selection_overflow_iff co primary).mp h)
    · intro product hproduct
      apply refusing_iff.mp
      exact fun h => hproducts product hproduct ((product_overflow_iff co product).mp h)
    · exact fun s _ => s.partitioned
    · intro s accepted _ _ hscope product hproduct
      unfold requireProductScope at hscope
      rw [Bool.and_eq_true] at hscope
      exact ⟨product.selection.partitioned,
        drawnFrom_of_inScope (List.all_eq_true.mp hscope.2 product hproduct)⟩

/-- A window payload of the last month of the calendar. -/
def lateWindow (materializationId periodStart : String) : Json :=
  .obj [("materialization_id", .str materializationId), ("period_start", .str periodStart),
    ("period_end", .str "9999-12-31"), ("restatement_sequence", .int 1),
    ("definition_content_hash", .str (repeatedDigest '1')),
    ("membership_content_hash", .str (repeatedDigest '2')),
    ("attestation_content_hash", .str (repeatedDigest '3')), ("source_cut_id", .str "cut-1"),
    ("method_binding", .obj [("return_method", .str "TWR")]),
    ("retained_receipt_fingerprint", .str (repeatedDigest '4'))]

/-- A selection whose first window already ends the calendar. -/
def overrunningSelection : Json :=
  .obj [("tenant_id", .str "tenant-1"), ("composite_id", .str "composite-1"),
    ("calculation_id", .str "6f1b0c52-4b7e-4c39-9d25-0f6f7f0a0001"),
    ("period_start", .str "9999-12-01"), ("period_end", .str "9999-12-31"),
    ("reporting_currency", .str "CHF"), ("return_view", .str "GROSS"),
    ("methodology", .str "TWR"), ("engine_version", .str "v1"),
    ("calculation_fingerprint", .str (repeatedDigest '5')),
    ("response_digest", .str (repeatedDigest '6')),
    ("windows", .arr [lateWindow "6f1b0c52-4b7e-4c39-9d25-0f6f7f0a0002" "9999-12-01",
      lateWindow "6f1b0c52-4b7e-4c39-9d25-0f6f7f0a0003" "9999-12-31"])]

/-- The adjacency loop raises the overflow of date arithmetic. -/
theorem not_payloadsHandled_overrunning :
    ¬ PayloadsHandled Coercions.standard overrunningSelection [] := by
  intro h
  have hoverflow : CompositeReportSelection.validate Coercions.standard overrunningSelection =
      .error .overflow := by decide +kernel
  cases h.primaryRefused _ hoverflow

end Products

end LotusReport.Composite
