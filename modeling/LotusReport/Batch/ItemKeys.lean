import LotusReport.Batch.Creation
import LotusReport.Encoding.Separators

/-!
# The keys of batch items

The key of an item joins the key of its batch, the as-of date, the position and
the portfolio with colons. While no portfolio of a batch has a colon in its
name, the four parts can be read off the key: the items of different batches
have different keys, and so have the items of one batch.
-/

namespace LotusReport.Batch

open Encoding Relational StateMachine

section ItemKey

variable {k k' asOf asOf' p p' : String} {m n : Nat}

theorem itemKey_eq_joined (k asOf : String) (n : Nat) (p : String) :
    itemKey k asOf n p = joined (joined (joined k asOf) (toString n)) p := rfl

/-- The four parts of an item key are read off it from the right. -/
theorem itemKey_inj (hasOf : ColonFree asOf) (hasOf' : ColonFree asOf') (hp : ColonFree p)
    (hp' : ColonFree p') (h : itemKey k asOf m p = itemKey k' asOf' n p') :
    k = k' ∧ asOf = asOf' ∧ m = n ∧ p = p' := by
  rw [itemKey_eq_joined, itemKey_eq_joined] at h
  obtain ⟨hfront, hportfolio⟩ := joined_inj_last hp hp' h
  obtain ⟨hdated, hposition⟩ :=
    joined_inj_last (colonFree_toString m) (colonFree_toString n) hfront
  obtain ⟨hkey, hdate⟩ := joined_inj_last hasOf hasOf' hdated
  refine ⟨hkey, hdate, ?_, hportfolio⟩
  exact Json.digits_inj (by simpa using congrArg String.toList hposition)

theorem kindOf_itemKey (k asOf : String) (n : Nat) (p : String) :
    kindOf (itemKey k asOf n p) = kindOf k := by
  rw [itemKey_eq_joined, kindOf_joined, kindOf_joined, kindOf_joined]

/-- Of the key of an item only white space behind the portfolio is lost. -/
theorem strip_itemKey (hk : Stripped k) (hne : k ≠ "") (asOf : String) (n : Nat) (p : String) :
    strip (itemKey k asOf n p) = itemKey k asOf n (rstrip p) := by
  rw [itemKey_eq_joined, itemKey_eq_joined, joined_assoc, joined_assoc, strip_joined hk hne,
    rstrip_joined, rstrip_joined, joined_assoc, joined_assoc]

/-- A key has the shape of the key of an item, for a portfolio without a colon. -/
def ItemShaped (key : String) : Prop :=
  ∃ k n p, ∃ date : CalendarDate, ColonFree p ∧ key = itemKey k date.isoformat n p

end ItemKey

section Stored

variable {py : Runtime} {s s' : BatchLedger} {request : BatchCreateRequest}
  {callerContext : ReportCallerContext} {idempotencyKey : Option String} {batchId : String}
  {itemId : Nat → String} {now : Instant} {call : BatchCall} {i i' j : BatchItemRow}

theorem insertItems_rows {normalizedKey asOfDate : String} {at_ : Timestamp} {position : Nat}
    {portfolios : List MaterializedPortfolio}
    (h : BatchLedger.insertItems normalizedKey asOfDate batchId itemId at_ position portfolios s =
      .ok s') :
    s'.items.rows =
      s.items.rows ++ newItems normalizedKey asOfDate batchId itemId at_ position portfolios := by
  induction portfolios generalizing position s with
  | nil =>
      cases h
      simp [newItems]
  | cons portfolio portfolios ih =>
      rw [insertItems_cons rfl] at h
      cases hinsert : s.insertItem _ with
      | error e =>
          rw [hinsert] at h
          cases h
      | ok s₁ =>
          rw [hinsert] at h
          rw [ih h, (insertItem_eq_ok hinsert).2, List.append_assoc]
          rfl

theorem createBatch_stores {record : ReportBatchRecord}
    (h : s.createBatch py request callerContext idempotencyKey batchId itemId now =
      .ok (record, s')) :
    s' = s ∨ strip (idempotencyKey.getD "") ≠ "" ∧ s.batches.find? batchId = none ∧
      ∃ materialized, materializePortfolios py request callerContext = .ok materialized ∧
        s'.batches.rows = s.batches.rows ++ [newBatch py request callerContext
          (strip (idempotencyKey.getD "")) batchId now materialized] ∧
        s'.items.rows = s.items.rows ++ newItems (strip (idempotencyKey.getD "")) request.asOfDate
          batchId itemId (dtToText now) 1 materialized := by
  by_cases hkey : strip (idempotencyKey.getD "") = ""
  · simp [BatchLedger.createBatch, hkey] at h
  · cases hm : materializePortfolios py request callerContext with
    | error e => simp [BatchLedger.createBatch, hkey, hm, Except.mapError, bind, Except.bind] at h
    | ok materialized =>
        rcases createBatch_cases h with ⟨-, hsame⟩ | ⟨-, -, hfree, hfresh, -⟩
        · exact Or.inl hsame
        · refine Or.inr ⟨hkey, hfresh, materialized, rfl, ?_⟩
          rw [createBatch_eq hkey hm, hfree] at h
          simp only at h
          split at h
          · cases h
          · rename_i batches hinsert
            cases hitems : BatchLedger.insertItems (strip (idempotencyKey.getD ""))
                request.asOfDate batchId itemId (dtToText now) 1 materialized
                { s with batches := batches } with
            | error e => simp [hitems, Except.bind] at h
            | ok s₁ =>
                have hbatches : s₁.batches = batches := (insertItems_eq_ok hitems).1
                rw [hitems] at h
                cases hload : s₁.loadBatch batchId with
                | error e => simp [hload, Except.bind] at h
                | ok loaded =>
                    simp only [Except.bind, hload, Except.ok.injEq, Prod.mk.injEq] at h
                    rw [← h.2]
                    have hrows := insertItems_rows hitems
                    refine ⟨?_, hrows⟩
                    rw [hbatches]
                    exact ((Table.insert?_eq_some_iff _ _ _).mp hinsert).2.2

/-- An item of a new batch stands at a position of the batch, for one of its portfolios, and has
the key of that position. -/
theorem mem_newItems {normalizedKey asOfDate : String} {at_ : Timestamp} {position : Nat}
    {portfolios : List MaterializedPortfolio}
    (hi : i ∈ newItems normalizedKey asOfDate batchId itemId at_ position portfolios) :
    position ≤ i.itemPosition ∧ i.batchId = batchId ∧
      i.portfolioId ∈ portfolios.map (·.portfolioId) ∧
      i.itemIdempotencyKey = itemKey normalizedKey asOfDate i.itemPosition i.portfolioId := by
  induction portfolios generalizing position with
  | nil => cases hi
  | cons portfolio portfolios ih =>
      rcases List.mem_cons.mp hi with rfl | hi
      · exact ⟨Nat.le_refl _, rfl, List.mem_cons_self, rfl⟩
      · obtain ⟨hposition, hbatch, hportfolio, hkey⟩ := ih hi
        exact ⟨by omega, hbatch, List.mem_cons_of_mem _ hportfolio, hkey⟩

theorem eq_of_mem_newItems {normalizedKey asOfDate : String} {at_ : Timestamp} {position : Nat}
    {portfolios : List MaterializedPortfolio}
    (hi : i ∈ newItems normalizedKey asOfDate batchId itemId at_ position portfolios)
    (hj : j ∈ newItems normalizedKey asOfDate batchId itemId at_ position portfolios)
    (hposition : i.itemPosition = j.itemPosition) : i = j := by
  induction portfolios generalizing position with
  | nil => cases hi
  | cons portfolio portfolios ih =>
      rcases List.mem_cons.mp hi with hfirst | hi'
      · rcases List.mem_cons.mp hj with hfirst' | hj'
        · rw [hfirst, hfirst']
        · have hlater := (mem_newItems hj').1
          rw [← hposition, hfirst] at hlater
          exact absurd hlater (Nat.not_succ_le_self position)
      · rcases List.mem_cons.mp hj with hfirst' | hj'
        · have hlater := (mem_newItems hi').1
          rw [hposition, hfirst'] at hlater
          exact absurd hlater (Nat.not_succ_le_self position)
        · exact ih hi' hj'

/-- The item goes on as the same item of the same batch, under the same key. -/
structure BatchItemRow.Continues (i i' : BatchItemRow) : Prop where
  item : i'.batchItemId = i.batchItemId
  batch : i'.batchId = i.batchId
  position : i'.itemPosition = i.itemPosition
  portfolio : i'.portfolioId = i.portfolioId
  key : i'.itemIdempotencyKey = i.itemIdempotencyKey

theorem BatchItemRow.Continues.refl (i : BatchItemRow) : i.Continues i := ⟨rfl, rfl, rfl, rfl, rfl⟩

theorem ItemStep.continues (h : ItemStep s call i i') : i.Continues i' := by
  cases h <;> exact ⟨rfl, rfl, rfl, rfl, rfl⟩

/-- An item is still there after a call, under the same key. -/
theorem step_item_continues (py : Runtime) (call : BatchCall) (hi : i ∈ s.items.rows) :
    ∃ i' ∈ (step py s call).items.rows, i.Continues i' := by
  obtain ⟨i', hi', rfl | hstep⟩ := step_item py call hi
  · exact ⟨i', hi', .refl i'⟩
  · exact ⟨i', hi', hstep.continues⟩

/-- The call creates a batch. -/
def BatchCall.creates : BatchCall → Bool
  | .createBatch _ _ _ _ _ _ => true
  | _ => false

theorem item_of_step_continues (hcall : call.creates = false)
    (hi' : i' ∈ (step py s call).items.rows) : ∃ i ∈ s.items.rows, i.Continues i' := by
  have hstep := step_itemsStep py s call
  generalize step py s call = t at hi' hstep
  cases hstep with
  | same h => exact ⟨i', h ▸ hi', .refl i'⟩
  | updated hset h =>
      rw [hset] at hi'
      rcases Table.mem_update.mp hi' with ⟨hold, -⟩ | ⟨i, hi, hp, rfl⟩
      · exact ⟨i', hold, .refl i'⟩
      · exact ⟨i, hi, (h i hi hp).continues⟩
  | created h => cases hcall

theorem batch_of_step_continues (hcall : call.creates = false) {b' : BatchRow}
    (hb' : b' ∈ (step py s call).batches.rows) : ∃ b ∈ s.batches.rows, b.Continues b' := by
  rcases batch_of_step hb' with hold | ⟨_, _, _, _, _, _, rfl, -⟩
  · exact hold
  · cases hcall

end Stored

section Plain

/-- The kinds of the keys that are derived for recoveries. -/
def reservedKinds : List String := ["replay", "batch-item-replay"]

/-- A batch under a stripped key of no reserved kind, for a calendar date. -/
structure PlainBatch (b : BatchRow) : Prop where
  stripped : Stripped b.idempotencyKey
  filled : b.idempotencyKey ≠ ""
  kind : kindOf b.idempotencyKey ∉ reservedKinds
  dated : ∃ date : CalendarDate, b.asOfDate = date.isoformat

/-- An item for a portfolio without a colon, under the key of its place in its batch. -/
structure PlainItem (s : BatchLedger) (i : BatchItemRow) : Prop where
  portfolio : ColonFree i.portfolioId
  key : ∃ b ∈ s.batches.rows, b.batchId = i.batchId ∧
    i.itemIdempotencyKey = itemKey b.idempotencyKey b.asOfDate i.itemPosition i.portfolioId

/-- The batches and the items are plain, and the items of a batch stand at different positions. -/
structure PlainKeys (s : BatchLedger) : Prop where
  batch : ∀ b ∈ s.batches.rows, PlainBatch b
  item : ∀ i ∈ s.items.rows, PlainItem s i
  position : ∀ i ∈ s.items.rows, ∀ j ∈ s.items.rows, i.batchId = j.batchId →
    i.itemPosition = j.itemPosition → i.batchItemId = j.batchItemId

/-- A creation under a key of no reserved kind, for a calendar date and for portfolios without a
colon; other calls are free. -/
def PlainCreation (py : Runtime) : BatchCall → Prop
  | .createBatch request callerContext idempotencyKey _ _ _ =>
      kindOf (strip (idempotencyKey.getD "")) ∉ reservedKinds ∧
        (∃ date : CalendarDate, request.asOfDate = date.isoformat) ∧
        ∀ materialized, materializePortfolios py request callerContext = .ok materialized →
          ∀ portfolio ∈ materialized, ColonFree portfolio.portfolioId
  | _ => True

/-- The creation, if it is one with a key that no batch holds, needs no item key that is taken. -/
def ClashFree (py : Runtime) (s : BatchLedger) : BatchCall → Prop
  | .createBatch request callerContext idempotencyKey _ _ _ =>
      ∀ materialized, materializePortfolios py request callerContext = .ok materialized →
        s.batches.lookup? (strip (idempotencyKey.getD "")) = none →
        ¬ s.HoldsItemKey
          (newItemKeys (strip (idempotencyKey.getD "")) request.asOfDate 1 materialized)
  | _ => True

variable {py : Runtime} {s : BatchLedger} {call : BatchCall} {i j : BatchItemRow}

theorem plainKeys_empty : PlainKeys BatchLedger.empty := by
  constructor
  · intro b hb
    cases hb
  · intro i hi
    cases hi
  · intro i hi
    cases hi

theorem PlainKeys.continues {t : BatchLedger} (hs : PlainKeys s)
    (hbatch : ∀ b ∈ s.batches.rows, ∃ b' ∈ t.batches.rows, b.Continues b')
    (hbatch' : ∀ b' ∈ t.batches.rows, ∃ b ∈ s.batches.rows, b.Continues b')
    (hitem : ∀ i' ∈ t.items.rows, ∃ i ∈ s.items.rows, i.Continues i') : PlainKeys t := by
  constructor
  · intro b' hb'
    obtain ⟨b, hb, hcontinues⟩ := hbatch' b' hb'
    rw [hcontinues]
    obtain ⟨hstripped, hfilled, hkind, hdated⟩ := hs.batch b hb
    exact ⟨hstripped, hfilled, hkind, hdated⟩
  · intro i' hi'
    obtain ⟨i, hi, hcontinues⟩ := hitem i' hi'
    obtain ⟨hportfolio, b, hb, hid, hkey⟩ := hs.item i hi
    obtain ⟨b', hb', hgoes⟩ := hbatch b hb
    refine ⟨by rw [hcontinues.portfolio]; exact hportfolio, b', hb', ?_, ?_⟩
    · rw [hgoes.batchId, hid, hcontinues.batch]
    · rw [hcontinues.key, hcontinues.position, hcontinues.portfolio, hkey, hgoes]
  · intro i' hi' j' hj' hsame hposition
    obtain ⟨i, hi, hicontinues⟩ := hitem i' hi'
    obtain ⟨j, hj, hjcontinues⟩ := hitem j' hj'
    rw [hicontinues.item, hjcontinues.item]
    apply hs.position i hi j hj
    · rw [← hicontinues.batch, ← hjcontinues.batch, hsame]
    · rw [← hicontinues.position, ← hjcontinues.position, hposition]

theorem PlainKeys.createBatch {request : BatchCreateRequest}
    {callerContext : ReportCallerContext} {idempotencyKey : Option String} {batchId : String}
    {itemId : Nat → String} {now : Instant} (hs : PlainKeys s)
    (hcall : PlainCreation py
      (.createBatch request callerContext idempotencyKey batchId itemId now)) :
    PlainKeys (step py s (.createBatch request callerContext idempotencyKey batchId itemId now)) := by
  rw [step]
  rcases stateAfter_cases (s := s)
    (s.createBatch py request callerContext idempotencyKey batchId itemId now) with
    hsame | ⟨record, t, hok, ht⟩
  · rw [hsame]
    exact hs
  · rw [ht]
    rcases createBatch_stores hok with rfl | ⟨hkey, hfresh, materialized, hm, hbatches, hitems⟩
    · exact hs
    · obtain ⟨hkind, hdated, hportfolios⟩ := hcall
      -- the items of the other batches keep theirs
      have hother : ∀ i ∈ s.items.rows, i.batchId ≠ batchId := by
        intro i hi hid
        obtain ⟨b, hb, hbid, -⟩ := (hs.item i hi).key
        exact (Table.find?_eq_none_iff _ _).mp hfresh b hb (hbid.trans hid)
      constructor
      · intro b hb
        rw [hbatches, List.mem_append, List.mem_singleton] at hb
        rcases hb with hb | rfl
        · exact hs.batch b hb
        · exact ⟨stripped_strip _, hkey, hkind, hdated⟩
      · intro i hi
        rw [hitems, List.mem_append] at hi
        rcases hi with hi | hi
        · obtain ⟨hportfolio, b, hb, hid, hikey⟩ := hs.item i hi
          refine ⟨hportfolio, b, ?_, hid, hikey⟩
          rw [hbatches]
          exact List.mem_append_left _ hb
        · obtain ⟨-, hbatch, hportfolio, hikey⟩ := mem_newItems hi
          obtain ⟨portfolio, hmem, hid⟩ := List.mem_map.mp hportfolio
          have hfree : ColonFree i.portfolioId := by
            rw [← hid]
            exact hportfolios materialized hm portfolio hmem
          refine ⟨hfree, newBatch py request callerContext (strip (idempotencyKey.getD "")) batchId
            now materialized, ?_, hbatch.symm, hikey⟩
          rw [hbatches]
          exact List.mem_append_right _ List.mem_cons_self
      · intro i hi j hj hsame hposition
        rw [hitems, List.mem_append] at hi hj
        rcases hi with hi | hi
        · rcases hj with hj | hj
          · exact hs.position i hi j hj hsame hposition
          · exact absurd (hsame.trans (mem_newItems hj).2.1) (hother i hi)
        · rcases hj with hj | hj
          · exact absurd (hsame.symm.trans (mem_newItems hi).2.1) (hother j hj)
          · rw [eq_of_mem_newItems hi hj hposition]

theorem PlainKeys.step (hs : PlainKeys s) (hcall : PlainCreation py call) :
    PlainKeys (step py s call) := by
  cases hcreates : call.creates with
  | true =>
      cases call with
      | createBatch request callerContext idempotencyKey batchId itemId now =>
          exact hs.createBatch hcall
      | _ => cases hcreates
  | false =>
      apply hs.continues
      · exact fun b hb => step_batch py call hb
      · exact fun b' hb' => batch_of_step_continues hcreates hb'
      · exact fun i' hi' => item_of_step_continues hcreates hi'

theorem mem_newItemKeys {normalizedKey asOfDate key : String} {position : Nat}
    {portfolios : List MaterializedPortfolio}
    (h : key ∈ newItemKeys normalizedKey asOfDate position portfolios) :
    ∃ n, ∃ portfolio ∈ portfolios, key = itemKey normalizedKey asOfDate n portfolio.portfolioId := by
  induction portfolios generalizing position with
  | nil => cases h
  | cons portfolio portfolios ih =>
      rcases List.mem_cons.mp h with rfl | h
      · exact ⟨position, portfolio, List.mem_cons_self, rfl⟩
      · obtain ⟨n, other, hmem, hkey⟩ := ih h
        exact ⟨n, other, List.mem_cons_of_mem _ hmem, hkey⟩

theorem PlainKeys.clashFree (hs : PlainKeys s) (hcall : PlainCreation py call) :
    ClashFree py s call := by
  cases call with
  | createBatch request callerContext idempotencyKey batchId itemId now =>
      obtain ⟨-, ⟨date, hdate⟩, hportfolios⟩ := hcall
      rintro materialized hm hfree ⟨i, hi, hclash⟩
      obtain ⟨n, portfolio, hmem, hkey⟩ := mem_newItemKeys hclash
      obtain ⟨hportfolio, b, hb, -, hikey⟩ := hs.item i hi
      obtain ⟨date', hdate'⟩ := (hs.batch b hb).dated
      have hsame := (itemKey_inj (hdate' ▸ colonFree_isoformat date')
        (hdate ▸ colonFree_isoformat date) hportfolio (hportfolios materialized hm portfolio hmem)
        (hikey.symm.trans hkey)).1
      exact (Table.lookup?_eq_none_iff _ _).mp hfree b hb hsame
  | _ => trivial

theorem PlainKeys.itemShaped (hs : PlainKeys s) (hi : i ∈ s.items.rows) :
    ItemShaped (strip i.itemIdempotencyKey) ∧
      kindOf (strip i.itemIdempotencyKey) ∉ reservedKinds := by
  obtain ⟨hportfolio, b, hb, -, hkey⟩ := hs.item i hi
  obtain ⟨hstripped, hfilled, hkind, date, hdate⟩ := hs.batch b hb
  rw [hkey, strip_itemKey hstripped hfilled]
  constructor
  · exact ⟨_, _, _, date, hportfolio.rstrip, by rw [hdate]⟩
  · rw [kindOf_itemKey]
    exact hkind

theorem PlainKeys.item_inj (hs : PlainKeys s) (hi : i ∈ s.items.rows) (hj : j ∈ s.items.rows)
    (h : strip i.itemIdempotencyKey = strip j.itemIdempotencyKey) :
    i.batchItemId = j.batchItemId := by
  obtain ⟨hportfolio, b, hb, hid, hkey⟩ := hs.item i hi
  obtain ⟨hportfolio', b', hb', hid', hkey'⟩ := hs.item j hj
  obtain ⟨hstripped, hfilled, -, date, hdate⟩ := hs.batch b hb
  obtain ⟨hstripped', hfilled', -, date', hdate'⟩ := hs.batch b' hb'
  rw [hkey, hkey', strip_itemKey hstripped hfilled, strip_itemKey hstripped' hfilled'] at h
  obtain ⟨hbatchKey, -, hposition, -⟩ := itemKey_inj (hdate ▸ colonFree_isoformat date)
    (hdate' ▸ colonFree_isoformat date') hportfolio.rstrip hportfolio'.rstrip h
  have hbatch : b = b' := List.inj_on_of_nodup_map (Table.index_nodup _) hb hb' hbatchKey
  apply hs.position i hi j hj
  · rw [← hid, ← hid', hbatch]
  · exact hposition

end Plain

end LotusReport.Batch
