import LotusReport.Batch.Creation
import LotusReport.Identity.SeriesKey

/-!
# Batch creation of two tenants

The idempotency key of a batch is unique in the whole ledger and looked up
without the tenant, while the request hash contains the tenant. A creation
therefore depends on the batches of other tenants exactly through the keys they
hold: the batch key, and the item keys that a new batch would write.
-/

namespace LotusReport.Batch

open Encoding Relational StateMachine

section Hashes

/-- The options of a creation are a dictionary that the program can hold. -/
def BatchCall.WellFormed : BatchCall → Prop
  | .createBatch request _ _ _ _ _ => (Json.obj request.options).wellFormed = true
  | _ => True

/-- The hash of every stored batch is that of a request of its tenant. -/
def BatchLedger.Hashed (py : Runtime) (s : BatchLedger) : Prop :=
  ∀ b ∈ s.batches.rows, ∃ (request : BatchCreateRequest) (callerContext : ReportCallerContext)
    (materialized : List MaterializedPortfolio), (Json.obj request.options).wellFormed = true ∧
    callerContext.tenantId = b.tenantId ∧
    b.requestHash = computeBatchRequestHash py request callerContext materialized

variable {py : Runtime} {s s' : BatchLedger}

theorem requestHash_createBatch {request : BatchCreateRequest}
    {callerContext : ReportCallerContext} {idempotencyKey : Option String} {batchId : String}
    {itemId : Nat → String} {now : Instant} {record : ReportBatchRecord}
    (h : s.createBatch py request callerContext idempotencyKey batchId itemId now =
      .ok (record, s')) {b : BatchRow} (hb : b ∈ s'.batches.rows) :
    b ∈ s.batches.rows ∨ ∃ materialized, b.tenantId = callerContext.tenantId ∧
      b.requestHash = computeBatchRequestHash py request callerContext materialized := by
  rcases createBatch_cases h with ⟨-, rfl⟩ | ⟨materialized, hrecord, -, -, hrows⟩
  · exact Or.inl hb
  · rw [hrows, List.mem_append, List.mem_singleton] at hb
    rcases hb with hb | rfl
    · exact Or.inl hb
    · rw [hrecord]
      exact Or.inr ⟨materialized, rfl, rfl⟩

theorem BatchLedger.Hashed.step (hs : s.Hashed py) {call : BatchCall} (hcall : call.WellFormed) :
    (step py s call).Hashed py := by
  intro b hb
  have hkept : ∀ b₀ ∈ s.batches.rows, b₀.tenantId = b.tenantId → b₀.requestHash = b.requestHash →
      ∃ (request : BatchCreateRequest) (callerContext : ReportCallerContext)
        (materialized : List MaterializedPortfolio), (Json.obj request.options).wellFormed = true ∧
        callerContext.tenantId = b.tenantId ∧
        b.requestHash = computeBatchRequestHash py request callerContext materialized := by
    intro b₀ hb₀ htenant hhash
    rw [← htenant, ← hhash]
    exact hs b₀ hb₀
  rcases batch_of_step hb with ⟨b₀, hb₀, hcontinues⟩ | ⟨request, callerContext, key, itemId, now,
    new, rfl, -⟩
  · exact hkept b₀ hb₀ (by rw [hcontinues]) (by rw [hcontinues])
  · rw [Batch.step] at hb
    rcases stateAfter_cases (s := s)
      (s.createBatch py request callerContext key b.batchId itemId now) with
      hsame | ⟨record, s', hok, hs'⟩
    · rw [hsame] at hb
      exact hs b hb
    · rw [hs'] at hb
      rcases requestHash_createBatch hok hb with hb | ⟨materialized, htenant, hhash⟩
      · exact hs b hb
      · exact ⟨request, callerContext, materialized, hcall, htenant.symm, hhash⟩

theorem hashed_run {calls : List BatchCall} (hcalls : ∀ call ∈ calls, call.WellFormed) :
    (run (Batch.step py) BatchLedger.empty calls).Hashed py := by
  refine run_invariant (P := fun _ call => call.WellFormed) (fun s call hs hcall => hs.step hcall)
    (fun b hb => absurd hb List.not_mem_nil) (along_of_forall fun call hcall _ => hcalls call hcall)

/-- Requests of different tenants have different hashes. -/
theorem requestHash_ne (hsha : Function.Injective py.sha256)
    {request request' : BatchCreateRequest} {callerContext callerContext' : ReportCallerContext}
    {materialized materialized' : List MaterializedPortfolio}
    (hwf : (Json.obj request.options).wellFormed = true)
    (hwf' : (Json.obj request'.options).wellFormed = true)
    (htenant : callerContext.tenantId ≠ callerContext'.tenantId) :
    computeBatchRequestHash py request callerContext materialized ≠
      computeBatchRequestHash py request' callerContext' materialized' := by
  intro h
  have hpayload : ∀ (request : BatchCreateRequest) (callerContext : ReportCallerContext)
      (materialized : List MaterializedPortfolio), (Json.obj request.options).wellFormed = true →
      (Json.obj
        [ ("selector_mode", .str request.selectorMode.text),
          ("materialized_portfolio_ids", .ofTexts (materialized.map (·.portfolioId))),
          ("as_of_date", .str request.asOfDate),
          ("requested_output_formats", .ofTexts (sortedTexts request.requestedOutputFormats)),
          ("reporting_currency", .ofText? request.reportingCurrency),
          ("options", .obj request.options),
          ("tenant_id", .str callerContext.tenantId),
          ("region", .str callerContext.region) ]).wellFormed = true := by
    intro request callerContext materialized hoptions
    have hcurrency : (Json.ofText? request.reportingCurrency).wellFormed = true := by
      cases request.reportingCurrency <;> rfl
    rw [Json.wellFormed_obj]
    refine ⟨by simp [Distinct], ?_⟩
    simp only [List.forall_mem_cons, Json.wellFormed_str, Identity.wellFormed_ofTexts, hcurrency,
      hoptions, true_and]
    simp
  have hagrees := (Identity.digest_eq_iff hsha (hpayload _ _ _ hwf) (hpayload _ _ _ hwf')).mp h
  have htenants := (Json.agrees_obj_iff_lookup (hpayload _ _ _ hwf) (hpayload _ _ _ hwf')).mp
    hagrees "tenant_id"
  simp [Json.lookup, Json.agrees] at htenants
  exact htenant htenants

end Hashes

section Noninterference

variable {py : Runtime} {s t : BatchLedger} {tenantId : String}

/-- The items of the tenant's batches. -/
def BatchLedger.itemsOfTenant (s : BatchLedger) (tenantId : String) : List BatchItemRow :=
  s.items.rows.filter fun i =>
    s.batches.rows.any fun b => b.batchId == i.batchId && b.tenantId == tenantId

/-- The ledgers differ only in the batches of other tenants. -/
structure SameFor (tenantId : String) (s t : BatchLedger) : Prop where
  batches : (s.batches.rows.filter fun b => b.tenantId == tenantId) =
    t.batches.rows.filter fun b => b.tenantId == tenantId
  items : s.itemsOfTenant tenantId = t.itemsOfTenant tenantId

instance (tenantId : String) (s t : BatchLedger) : Decidable (SameFor tenantId s t) :=
  decidable_of_iff
    ((s.batches.rows.filter fun b => b.tenantId == tenantId) =
        (t.batches.rows.filter fun b => b.tenantId == tenantId) ∧
      s.itemsOfTenant tenantId = t.itemsOfTenant tenantId)
    ⟨fun h => ⟨h.1, h.2⟩, fun h => ⟨h.batches, h.items⟩⟩

theorem SameFor.symm (h : SameFor tenantId s t) : SameFor tenantId t s :=
  ⟨h.batches.symm, h.items.symm⟩

theorem SameFor.mem (h : SameFor tenantId s t) {b : BatchRow} (hb : b ∈ s.batches.rows)
    (htenant : b.tenantId = tenantId) : b ∈ t.batches.rows := by
  have hfilter : b ∈ s.batches.rows.filter fun b => b.tenantId == tenantId :=
    List.mem_filter.mpr ⟨hb, beq_iff_eq.mpr htenant⟩
  rw [h.batches] at hfilter
  exact (List.mem_filter.mp hfilter).1

theorem SameFor.lookup? (h : SameFor tenantId s t) {key : String} {b : BatchRow}
    (hb : s.batches.lookup? key = some b) (htenant : b.tenantId = tenantId) :
    t.batches.lookup? key = some b :=
  (Table.lookup?_eq_some_iff _ _ _).mpr
    ⟨h.mem (Table.mem_of_lookup? hb) htenant, Table.index_of_lookup? hb⟩

theorem itemsOf_eq_filter {b : BatchRow} (hb : b ∈ s.batches.rows)
    (htenant : b.tenantId = tenantId) :
    s.itemsOf b.batchId =
      (s.itemsOfTenant tenantId).filter fun i => i.batchId == b.batchId := by
  rw [BatchLedger.itemsOf, BatchLedger.itemsOfTenant, List.filter_filter]
  refine List.filter_congr fun i _ => ?_
  by_cases hid : i.batchId = b.batchId
  · have hany : (s.batches.rows.any fun b => b.batchId == i.batchId && b.tenantId == tenantId) =
        true :=
      List.any_eq_true.mpr ⟨b, hb, by simp [hid, htenant]⟩
    rw [hany, Bool.and_true]
  · simp [hid]

theorem SameFor.itemsOf (h : SameFor tenantId s t) {b : BatchRow} (hb : b ∈ s.batches.rows)
    (htenant : b.tenantId = tenantId) : s.itemsOf b.batchId = t.itemsOf b.batchId := by
  rw [itemsOf_eq_filter hb htenant, itemsOf_eq_filter (h.mem hb htenant) htenant, h.items]

/-- A batch of another tenant holds the key. -/
def BatchLedger.HeldByOther (s : BatchLedger) (tenantId key : String) : Prop :=
  ∃ b ∈ s.batches.rows, b.idempotencyKey = key ∧ b.tenantId ≠ tenantId

/-- The key is held by another tenant in both ledgers or in neither; and where it is free in both,
the new item keys are taken in both or in neither. -/
def SameObstacles (tenantId key : String) (itemKeys : List String) (s t : BatchLedger) : Prop :=
  (s.HeldByOther tenantId key ↔ t.HeldByOther tenantId key) ∧
    (s.batches.lookup? key = none → t.batches.lookup? key = none →
      (s.HoldsItemKey itemKeys ↔ t.HoldsItemKey itemKeys))

theorem heldByOther_iff {key : String} :
    s.HeldByOther tenantId key ↔
      ∃ b, s.batches.lookup? key = some b ∧ b.tenantId ≠ tenantId := by
  constructor
  · rintro ⟨b, hb, hkey, htenant⟩
    exact ⟨b, (Table.lookup?_eq_some_iff _ _ _).mpr ⟨hb, hkey⟩, htenant⟩
  · rintro ⟨b, hb, htenant⟩
    exact ⟨b, Table.mem_of_lookup? hb, Table.index_of_lookup? hb, htenant⟩

variable {request : BatchCreateRequest} {callerContext : ReportCallerContext}
  {idempotencyKey : Option String} {batchId : String} {itemId : Nat → String} {now : Instant}
  {materialized : List MaterializedPortfolio}

theorem createOutcome_of_other (hsha : Function.Injective py.sha256) (hs : s.Hashed py)
    (hwf : (Json.obj request.options).wellFormed = true)
    (hkey : strip (idempotencyKey.getD "") ≠ "")
    (hm : materializePortfolios py request callerContext = .ok materialized)
    {b : BatchRow} (hb : s.batches.lookup? (strip (idempotencyKey.getD "")) = some b)
    (htenant : b.tenantId ≠ callerContext.tenantId) :
    createOutcome py s request callerContext idempotencyKey batchId itemId now =
      .error .idempotencyConflict := by
  rw [createOutcome_of_held hkey hm hb]
  obtain ⟨request', callerContext', materialized', hwf', htenant', hhash⟩ :=
    hs b (Table.mem_of_lookup? hb)
  refine if_pos ?_
  rw [hhash]
  exact requestHash_ne hsha hwf' hwf fun h => htenant (htenant'.symm.trans h)

theorem createOutcome_ne_conflict (hlinked : s.Linked)
    (hkey : strip (idempotencyKey.getD "") ≠ "")
    (hm : materializePortfolios py request callerContext = .ok materialized)
    (hfree : s.batches.lookup? (strip (idempotencyKey.getD "")) = none)
    (hfresh : FreshIds s batchId itemId) :
    createOutcome py s request callerContext idempotencyKey batchId itemId now ≠
      .error .idempotencyConflict := by
  by_cases hitems : s.HoldsItemKey
      (newItemKeys (strip (idempotencyKey.getD "")) request.asOfDate 1 materialized)
  · rw [createOutcome_of_itemKey hkey hm hfree hfresh hitems]
    exact fun h => by cases h
  · rw [createOutcome_of_free hlinked hkey hm hfree hfresh hitems]
    exact fun h => by cases h

theorem createOutcome_eq_iff_of_free (hs : s.Linked) (ht : t.Linked)
    (hkey : strip (idempotencyKey.getD "") ≠ "")
    (hm : materializePortfolios py request callerContext = .ok materialized)
    (hfree : s.batches.lookup? (strip (idempotencyKey.getD "")) = none)
    (hfree' : t.batches.lookup? (strip (idempotencyKey.getD "")) = none)
    (hfresh : FreshIds s batchId itemId) (hfresh' : FreshIds t batchId itemId) :
    createOutcome py s request callerContext idempotencyKey batchId itemId now =
        createOutcome py t request callerContext idempotencyKey batchId itemId now ↔
      (s.HoldsItemKey (newItemKeys (strip (idempotencyKey.getD "")) request.asOfDate 1
          materialized) ↔
        t.HoldsItemKey (newItemKeys (strip (idempotencyKey.getD "")) request.asOfDate 1
          materialized)) := by
  by_cases hitems : s.HoldsItemKey
      (newItemKeys (strip (idempotencyKey.getD "")) request.asOfDate 1 materialized) <;>
    by_cases hitems' : t.HoldsItemKey
      (newItemKeys (strip (idempotencyKey.getD "")) request.asOfDate 1 materialized)
  · rw [createOutcome_of_itemKey hkey hm hfree hfresh hitems,
      createOutcome_of_itemKey hkey hm hfree' hfresh' hitems']
    simp [hitems, hitems']
  · rw [createOutcome_of_itemKey hkey hm hfree hfresh hitems,
      createOutcome_of_free ht hkey hm hfree' hfresh' hitems']
    simp [hitems, hitems']
  · rw [createOutcome_of_free hs hkey hm hfree hfresh hitems,
      createOutcome_of_itemKey hkey hm hfree' hfresh' hitems']
    simp [hitems, hitems']
  · rw [createOutcome_of_free hs hkey hm hfree hfresh hitems,
      createOutcome_of_free ht hkey hm hfree' hfresh' hitems']
    simp [hitems, hitems']

/-- An admissible creation has one outcome in both ledgers exactly when it meets the same
obstacles. -/
theorem createOutcome_eq_iff (hsha : Function.Injective py.sha256) (hs : s.Hashed py)
    (ht : t.Hashed py) (hslinked : s.Linked) (htlinked : t.Linked)
    (hwf : (Json.obj request.options).wellFormed = true)
    (hsame : SameFor callerContext.tenantId s t)
    (hkey : strip (idempotencyKey.getD "") ≠ "")
    (hm : materializePortfolios py request callerContext = .ok materialized)
    (hfresh : FreshIds s batchId itemId) (hfresh' : FreshIds t batchId itemId) :
    createOutcome py s request callerContext idempotencyKey batchId itemId now =
        createOutcome py t request callerContext idempotencyKey batchId itemId now ↔
      SameObstacles callerContext.tenantId (strip (idempotencyKey.getD ""))
        (newItemKeys (strip (idempotencyKey.getD "")) request.asOfDate 1 materialized) s t := by
  rw [SameObstacles, heldByOther_iff, heldByOther_iff]
  cases hb : s.batches.lookup? (strip (idempotencyKey.getD "")) with
  | none =>
      cases hc : t.batches.lookup? (strip (idempotencyKey.getD "")) with
      | none =>
          rw [createOutcome_eq_iff_of_free hslinked htlinked hkey hm hb hc hfresh hfresh']
          simp
      | some c =>
          have htenant : c.tenantId ≠ callerContext.tenantId := by
            intro htenant
            rw [hsame.symm.lookup? hc htenant] at hb
            cases hb
          rw [createOutcome_of_other hsha ht hwf hkey hm hc htenant]
          simp [createOutcome_ne_conflict hslinked hkey hm hb hfresh, htenant]
  | some b =>
      by_cases htenant : b.tenantId = callerContext.tenantId
      · have hc := hsame.lookup? hb htenant
        rw [createOutcome_of_held hkey hm hb, createOutcome_of_held hkey hm hc,
          hsame.itemsOf (Table.mem_of_lookup? hb) htenant]
        simp [hc, htenant]
      · rw [createOutcome_of_other hsha hs hwf hkey hm hb htenant]
        cases hc : t.batches.lookup? (strip (idempotencyKey.getD "")) with
        | none =>
            have hne : createOutcome py t request callerContext idempotencyKey batchId itemId now ≠
                .error .idempotencyConflict :=
              createOutcome_ne_conflict htlinked hkey hm hc hfresh'
            simp [Ne.symm hne, htenant]
        | some c =>
            have htenant' : c.tenantId ≠ callerContext.tenantId := by
              intro htenant'
              have hback := hsame.symm.lookup? hc htenant'
              rw [hb] at hback
              exact htenant (Option.some.inj hback ▸ htenant')
            rw [createOutcome_of_other hsha ht hwf hkey hm hc htenant']
            simp [htenant, htenant']

/-- In two histories that differ only in the batches of other tenants, a creation has one outcome
exactly when it is not admissible or meets the same obstacles. -/
theorem create_batch_outcome_iff (hsha : Function.Injective py.sha256)
    {calls calls' : List BatchCall} (hcalls : ∀ call ∈ calls, call.WellFormed)
    (hcalls' : ∀ call ∈ calls', call.WellFormed)
    (hs : s = run (Batch.step py) .empty calls) (ht : t = run (Batch.step py) .empty calls')
    (hwf : (Json.obj request.options).wellFormed = true)
    (hsame : SameFor callerContext.tenantId s t)
    (hfresh : FreshIds s batchId itemId) (hfresh' : FreshIds t batchId itemId) :
    createOutcome py s request callerContext idempotencyKey batchId itemId now =
        createOutcome py t request callerContext idempotencyKey batchId itemId now ↔
      (strip (idempotencyKey.getD "") ≠ "" → ∀ materialized,
        materializePortfolios py request callerContext = .ok materialized →
        SameObstacles callerContext.tenantId (strip (idempotencyKey.getD ""))
          (newItemKeys (strip (idempotencyKey.getD "")) request.asOfDate 1 materialized) s t) := by
  by_cases hkey : strip (idempotencyKey.getD "") = ""
  · simp [createOutcome, BatchLedger.createBatch, hkey]
  · cases hm : materializePortfolios py request callerContext with
    | error e =>
        simp [createOutcome, BatchLedger.createBatch, hkey, hm, Except.mapError, bind, Except.bind]
    | ok materialized =>
        have hslinked : s.Linked := hs ▸ linked_run py calls
        have htlinked : t.Linked := ht ▸ linked_run py calls'
        rw [createOutcome_eq_iff hsha (hs ▸ hashed_run hcalls) (ht ▸ hashed_run hcalls') hslinked
          htlinked hwf hsame hkey hm hfresh hfresh']
        constructor
        · rintro h - materialized' hm'
          rwa [← Except.ok.inj hm']
        · exact fun h => h hkey materialized rfl

end Noninterference

section Sample

/-- A creation of tenant `tenant-uk` under a key, with the batch `rbch_uk`. -/
def otherTenantBatch (key : String) : BatchCall :=
  .createBatch
    { selectorMode := .explicitPortfolioList
      portfolioIds := ["P9"]
      sourceCandidates :=
        [{ portfolioId := "P9", tenantId := "tenant-uk", region := "EMEA", active := true }]
      asOfDate := "2026-04-22" }
    { sampleCaller with tenantId := "tenant-uk", region := "EMEA" } (some key) "rbch_uk"
    (fun n => "rbit_uk_" ++ toString n) 0

/-- The request of the sample caller. -/
def sampleRequest : BatchCreateRequest where
  selectorMode := .explicitPortfolioList
  portfolioIds := ["P1"]
  sourceCandidates :=
    [{ portfolioId := "P1", tenantId := "tenant-sg", region := "APAC", active := true }]
  asOfDate := "2026-04-22"

theorem toString_injective : Function.Injective (toString : Nat → String) := by
  intro m n h
  exact Json.digits_inj (by simpa using congrArg String.toList h)

theorem freshIds_sample {calls : List BatchCall}
    (hbatches : ∀ b ∈ (run (Batch.step .verbatim) .empty calls).batches.rows, b.batchId ≠ "rbch_1")
    (hitems : ∀ i ∈ (run (Batch.step .verbatim) .empty calls).items.rows,
      'r' ∈ i.batchItemId.toList) :
    FreshIds (run (Batch.step .verbatim) .empty calls) "rbch_1" toString := by
  refine ⟨hbatches, fun i hi n h => ?_, toString_injective⟩
  have hr := hitems i hi
  rw [h] at hr
  have hdigit : Char.isDigit 'r' = true := Json.digit_of_mem (n := n) (by simpa using hr)
  cases hdigit

instance (s : BatchLedger) (tenantId key : String) : Decidable (s.HeldByOther tenantId key) :=
  inferInstanceAs (Decidable (∃ b ∈ s.batches.rows, b.idempotencyKey = key ∧ b.tenantId ≠ tenantId))

instance (s : BatchLedger) (keys : List String) : Decidable (s.HoldsItemKey keys) :=
  inferInstanceAs (Decidable (∃ i ∈ s.items.rows, i.itemIdempotencyKey ∈ keys))

instance (tenantId key : String) (itemKeys : List String) (s t : BatchLedger) :
    Decidable (SameObstacles tenantId key itemKeys s t) :=
  inferInstanceAs (Decidable (_ ∧ (_ → _ → _)))

/-- Another tenant's batch under another key does not matter. -/
theorem create_batch_outcome_other_key :
    SameFor "tenant-sg" (run (Batch.step .verbatim) .empty [otherTenantBatch "key-9"])
        (run (Batch.step .verbatim) .empty []) ∧
      createOutcome .verbatim (run (Batch.step .verbatim) .empty [otherTenantBatch "key-9"])
          sampleRequest sampleCaller (some "key-1") "rbch_1" toString 0 =
        createOutcome .verbatim (run (Batch.step .verbatim) .empty []) sampleRequest sampleCaller
          (some "key-1") "rbch_1" toString 0 := by
  have hsame : SameFor "tenant-sg" (run (Batch.step .verbatim) .empty [otherTenantBatch "key-9"])
      (run (Batch.step .verbatim) .empty []) := by decide +kernel
  have hm : materializePortfolios .verbatim sampleRequest sampleCaller =
      .ok [⟨"P1", "lotus-core", "PortfolioScope"⟩] := by decide +kernel
  refine ⟨hsame, (create_batch_outcome_iff (fun _ _ h => h) ?_ ?_ rfl rfl (by decide) hsame
    (freshIds_sample (by decide +kernel) (by decide +kernel))
    (freshIds_sample (by decide +kernel) (by decide +kernel))).mpr ?_⟩
  · intro call hcall
    rw [List.mem_singleton.mp hcall]
    exact (by decide : (Json.obj []).wellFormed = true)
  · exact fun call hcall => absurd hcall List.not_mem_nil
  · intro _ materialized hmaterialized
    rw [hm] at hmaterialized
    cases hmaterialized
    decide +kernel

/-- Another tenant's batch under the same key makes the creation conflict. -/
theorem create_batch_outcome_not_same :
    SameFor "tenant-sg" (run (Batch.step .verbatim) .empty [otherTenantBatch "key-1"])
        (run (Batch.step .verbatim) .empty []) ∧
      FreshIds (run (Batch.step .verbatim) .empty [otherTenantBatch "key-1"]) "rbch_1" toString ∧
      FreshIds (run (Batch.step .verbatim) .empty []) "rbch_1" toString ∧
      createOutcome .verbatim (run (Batch.step .verbatim) .empty [otherTenantBatch "key-1"])
          sampleRequest sampleCaller (some "key-1") "rbch_1" toString 0 ≠
        createOutcome .verbatim (run (Batch.step .verbatim) .empty []) sampleRequest sampleCaller
          (some "key-1") "rbch_1" toString 0 := by
  refine ⟨by decide +kernel, freshIds_sample (by decide +kernel) (by decide +kernel),
    freshIds_sample (by decide +kernel) (by decide +kernel), fun h => ?_⟩
  have hok := congrArg Except.toBool h
  exact absurd hok (by decide +kernel)

end Sample

end LotusReport.Batch
