import LotusReport.Batch.Changes
import LotusReport.Encoding.Written
import LotusReport.Fallible.Checks

/-!
# The outcome of a batch creation

`create_batch` under generated identifiers that are new: it refuses the
request, returns the batch that holds the key, conflicts with it, or inserts
the batch with one item for every portfolio. The insertion fails exactly when a
stored item holds one of the new item keys.
-/

namespace LotusReport.Batch

open Encoding Relational StateMachine

section Selection

theorem nodup_of_repeated {texts : List String} (h : (repeated texts).isEmpty = true) :
    texts.Nodup := by
  refine List.nodup_iff_count_le_one.mpr fun t => ?_
  by_contra hcount
  have ht : t ∈ repeated texts := by
    refine List.mem_filter.mpr ⟨List.mem_dedup.mpr ?_, by simpa using hcount⟩
    exact List.count_pos_iff.mp (by omega)
  rw [List.isEmpty_iff.mp h] at ht
  cases ht

theorem nodup_selectedCandidates {py : Runtime} {request : BatchCreateRequest}
    {selected : List PortfolioBatchCandidate}
    (h : selectedCandidates py request = .ok selected) :
    (selected.map (·.portfolioId)).Nodup := by
  unfold selectedCandidates at h
  cases hmap : candidateMap request.sourceCandidates with
  | error e => simp [hmap, bind, Except.bind] at h
  | ok candidates =>
      simp only [hmap, bind, Except.bind] at h
      have hsource : (request.sourceCandidates.map (·.portfolioId)).Nodup := by
        unfold candidateMap at hmap
        simp only at hmap
        split at hmap
        · rename_i hempty
          exact nodup_of_repeated hempty
        · cases hmap
      have hexplicit : ∀ {ids : List String}, explicitPortfolioIds request.portfolioIds = .ok ids →
          ids.mapM (candidateForId py candidates) = .ok selected →
          (selected.map (·.portfolioId)).Nodup := by
        intro ids hids hselected
        have hportfolios : selected.map (·.portfolioId) = ids.map id := by
          refine Fallible.map_eq_of_mapM (fun id c hc => ?_) hselected
          unfold candidateForId at hc
          split at hc
          · rename_i hfound
            cases hc
            simpa using List.find?_some hfound
          · cases hc
        rw [hportfolios, List.map_id]
        unfold explicitPortfolioIds at hids
        simp only at hids
        split at hids
        · cases hids
        · split at hids
          · rename_i hempty
            cases hids
            exact nodup_of_repeated hempty
          · cases hids
      have hsorted : ∀ {cs : List PortfolioBatchCandidate},
          cs.Sublist request.sourceCandidates →
          ((sortedCandidates cs).map (·.portfolioId)).Nodup := by
        intro cs hcs
        have hperm : (sortedCandidates cs).Perm cs := List.perm_insertionSort _ _
        exact (hperm.map _).nodup_iff.mpr (hsource.sublist (hcs.map _))
      cases hmode : request.selectorMode with
      | explicitPortfolioList =>
          simp only [hmode] at h
          split at h
          · cases h
          · rename_i ids hids
            exact hexplicit hids h
      | batchManifest =>
          simp only [hmode] at h
          split at h
          · cases h
          · rename_i ids hids
            exact hexplicit hids h
      | selectedSubset =>
          simp only [hmode] at h
          split at h
          · cases h
          · cases h
            exact hsorted List.filter_sublist
      | allActivePortfolios =>
          simp only [hmode] at h
          split at h
          · cases h
          · cases h
            exact hsorted (List.Sublist.refl _)

theorem nodup_materializePortfolios {py : Runtime} {request : BatchCreateRequest}
    {callerContext : ReportCallerContext} {materialized : List MaterializedPortfolio}
    (h : materializePortfolios py request callerContext = .ok materialized) :
    (materialized.map (·.portfolioId)).Nodup := by
  unfold materializePortfolios at h
  cases hselected : selectedCandidates py request with
  | error e => simp [hselected, bind, Except.bind] at h
  | ok selected =>
      simp only [hselected, bind, Except.bind] at h
      split at h
      · cases h
      · have hportfolios : materialized.map (·.portfolioId) = selected.map (·.portfolioId) := by
          refine Fallible.map_eq_of_mapM (fun c m hm => ?_) h
          split at hm
          · cases hm
          · cases hm
            rfl
        rw [hportfolios]
        exact nodup_selectedCandidates hselected

end Selection

section Insertion

variable {s s' : BatchLedger} {normalizedKey asOfDate batchId : String} {itemId : Nat → String}
  {now : Timestamp}

/-- The key of the item at a position. -/
def itemKey (normalizedKey asOfDate : String) (position : Nat) (portfolioId : String) : String :=
  normalizedKey ++ ":" ++ asOfDate ++ ":" ++ toString position ++ ":" ++ portfolioId

/-- The items of a new batch, one for every portfolio from a position on. -/
def newItems (normalizedKey asOfDate batchId : String) (itemId : Nat → String) (now : Timestamp) :
    Nat → List MaterializedPortfolio → List BatchItemRow
  | _, [] => []
  | position, portfolio :: portfolios =>
      { batchItemId := itemId position
        batchId := batchId
        itemPosition := position
        portfolioId := portfolio.portfolioId
        itemIdempotencyKey := itemKey normalizedKey asOfDate position portfolio.portfolioId
        status := .materialized
        sourceSystem := portfolio.sourceSystem
        sourceObject := portfolio.sourceObject
        createdAt := now } ::
      newItems normalizedKey asOfDate batchId itemId now (position + 1) portfolios

/-- The keys of the items of a new batch. -/
def newItemKeys (normalizedKey asOfDate : String) :
    Nat → List MaterializedPortfolio → List String
  | _, [] => []
  | position, portfolio :: portfolios =>
      itemKey normalizedKey asOfDate position portfolio.portfolioId ::
        newItemKeys normalizedKey asOfDate (position + 1) portfolios

theorem map_key_newItems (position : Nat) (portfolios : List MaterializedPortfolio) :
    (newItems normalizedKey asOfDate batchId itemId now position portfolios).map
        (·.itemIdempotencyKey) =
      newItemKeys normalizedKey asOfDate position portfolios := by
  induction portfolios generalizing position with
  | nil => rfl
  | cons portfolio portfolios ih => simp [newItems, newItemKeys, ih]

theorem itemKey_position {m n : Nat} {a b : String}
    (h : itemKey normalizedKey asOfDate m a = itemKey normalizedKey asOfDate n b) : m = n := by
  have hchars := congrArg String.toList h
  simp only [itemKey, String.toList_append, List.append_assoc, List.append_cancel_left_eq] at hchars
  have htoken : (toString m).toList = (toString n).toList := by
    refine (Json.token_append_inj ?_ ?_ (Json.ends_cons ?_) (Json.ends_cons ?_) hchars).1
    all_goals first
      | exact fun c hc => Json.not_mark_of_digit (Json.digit_of_mem (by simpa using hc))
      | decide
  exact Json.digits_inj (by simpa using htoken)

/-- Two items that no uniqueness constraint of the table brings together. -/
def Separate (i j : BatchItemRow) : Prop :=
  ¬ (i.batchId = j.batchId ∧ i.portfolioId = j.portfolioId) ∧ i.batchItemId ≠ j.batchItemId ∧
    i.itemIdempotencyKey ≠ j.itemIdempotencyKey

theorem insertItem_of_separate {item : BatchItemRow}
    (h : ∀ i ∈ s.items.rows, Separate i item) :
    ∃ items, s.insertItem item = .ok { s with items := items } ∧
      items.rows = s.items.rows ++ [item] := by
  have hany : (s.items.rows.any fun i =>
      i.batchId == item.batchId && i.portfolioId == item.portfolioId) = false := by
    rw [List.any_eq_false]
    intro i hi heq
    exact (h i hi).1 (by simpa using heq)
  have hid : s.items.find? item.batchItemId = none :=
    (Table.find?_eq_none_iff _ _).mpr fun i hi => (h i hi).2.1
  have hkey : s.items.lookup? item.itemIdempotencyKey = none :=
    (Table.lookup?_eq_none_iff _ _).mpr fun i hi => (h i hi).2.2
  cases hinsert : s.items.insert? item with
  | none => exact absurd ⟨hid, hkey⟩ ((Table.insert?_eq_none_iff _ _).mp hinsert)
  | some items =>
      refine ⟨items, ?_, ((Table.insert?_eq_some_iff _ _ _).mp hinsert).2.2⟩
      simp [BatchLedger.insertItem, hany, hinsert]

theorem insertItem_error {item : BatchItemRow} {e : BatchLedgerError}
    (h : s.insertItem item = .error e) : e = .integrity := by
  unfold BatchLedger.insertItem at h
  split at h
  · cases h
    rfl
  · split at h
    · cases h
    · cases h
      rfl

theorem insertItem_of_key {item i : BatchItemRow} (hi : i ∈ s.items.rows)
    (hkey : i.itemIdempotencyKey = item.itemIdempotencyKey) :
    s.insertItem item = .error .integrity := by
  cases h : s.insertItem item with
  | error e => rw [insertItem_error h]
  | ok s' =>
      exfalso
      unfold BatchLedger.insertItem at h
      split at h
      · cases h
      · split at h
        · rename_i items hitems
          have hnone := ((Table.insert?_eq_some_iff _ _ _).mp hitems).2.1
          exact (Table.lookup?_eq_none_iff _ _).mp hnone i hi hkey
        · cases h

theorem insertItems_cons {position : Nat} {portfolio : MaterializedPortfolio}
    {portfolios : List MaterializedPortfolio} {item : BatchItemRow} {rest : List BatchItemRow}
    (h : newItems normalizedKey asOfDate batchId itemId now position (portfolio :: portfolios) =
      item :: rest) :
    BatchLedger.insertItems normalizedKey asOfDate batchId itemId now position
        (portfolio :: portfolios) s =
      (s.insertItem item).bind fun s =>
        BatchLedger.insertItems normalizedKey asOfDate batchId itemId now (position + 1)
          portfolios s := by
  obtain ⟨rfl, -⟩ := List.cons.inj h
  rfl

theorem insertItems_of_separate {position : Nat} {portfolios : List MaterializedPortfolio}
    (hstored : ∀ i ∈ s.items.rows,
      ∀ j ∈ newItems normalizedKey asOfDate batchId itemId now position portfolios, Separate i j)
    (hnew : (newItems normalizedKey asOfDate batchId itemId now position portfolios).Pairwise
      Separate) :
    ∃ items, BatchLedger.insertItems normalizedKey asOfDate batchId itemId now position portfolios
        s = .ok { s with items := items } ∧
      items.rows = s.items.rows ++
        newItems normalizedKey asOfDate batchId itemId now position portfolios := by
  induction portfolios generalizing position s with
  | nil => exact ⟨s.items, rfl, by simp [newItems]⟩
  | cons portfolio portfolios ih =>
      rw [insertItems_cons rfl]
      obtain ⟨hhead, htail⟩ := List.pairwise_cons.mp hnew
      obtain ⟨items, hok, hrows⟩ := insertItem_of_separate (s := s)
        fun i hi => hstored i hi _ List.mem_cons_self
      rw [hok]
      have hstored' : ∀ i ∈ ({ s with items := items } : BatchLedger).items.rows,
          ∀ j ∈ newItems normalizedKey asOfDate batchId itemId now (position + 1) portfolios,
            Separate i j := by
        intro i hi j hj
        rw [hrows, List.mem_append, List.mem_singleton] at hi
        rcases hi with hi | rfl
        · exact hstored i hi j (List.mem_cons_of_mem _ hj)
        · exact hhead j hj
      obtain ⟨items', hok', hrows'⟩ := ih hstored' htail
      refine ⟨items', hok', ?_⟩
      rw [hrows', hrows, List.append_assoc]
      rfl

theorem insertItems_of_key {position : Nat} {portfolios : List MaterializedPortfolio}
    {i : BatchItemRow} (hi : i ∈ s.items.rows)
    (hkey : i.itemIdempotencyKey ∈ newItemKeys normalizedKey asOfDate position portfolios) :
    BatchLedger.insertItems normalizedKey asOfDate batchId itemId now position portfolios s =
      .error .integrity := by
  induction portfolios generalizing position s with
  | nil => cases hkey
  | cons portfolio portfolios ih =>
      rw [insertItems_cons rfl]
      cases hinsert : s.insertItem _ with
      | error e => rw [insertItem_error hinsert]; rfl
      | ok s₁ =>
          obtain ⟨-, hrows⟩ := insertItem_eq_ok hinsert
          rcases List.mem_cons.mp hkey with hkey | hkey
          · rw [insertItem_of_key hi hkey] at hinsert
            cases hinsert
          · exact ih (by rw [hrows]; exact List.mem_append_left _ hi) hkey

theorem pairwise_newItems (hid : Function.Injective itemId) {position : Nat}
    {portfolios : List MaterializedPortfolio} (hnodup : (portfolios.map (·.portfolioId)).Nodup) :
    (newItems normalizedKey asOfDate batchId itemId now position portfolios).Pairwise Separate := by
  have hlater : ∀ (portfolios : List MaterializedPortfolio) (position : Nat),
      ∀ j ∈ newItems normalizedKey asOfDate batchId itemId now position portfolios,
        ∃ n, position ≤ n ∧ j.batchItemId = itemId n ∧ j.portfolioId ∈
            portfolios.map (·.portfolioId) ∧
          j.itemIdempotencyKey = itemKey normalizedKey asOfDate n j.portfolioId := by
    intro portfolios
    induction portfolios with
    | nil => exact fun position j hj => absurd hj List.not_mem_nil
    | cons portfolio portfolios ih =>
        intro position j hj
        rcases List.mem_cons.mp hj with rfl | hj
        · exact ⟨position, Nat.le_refl _, rfl, List.mem_cons_self, rfl⟩
        · obtain ⟨n, hn, hjid, hjp, hjkey⟩ := ih (position + 1) j hj
          exact ⟨n, by omega, hjid, List.mem_cons_of_mem _ hjp, hjkey⟩
  induction portfolios generalizing position with
  | nil => exact List.Pairwise.nil
  | cons portfolio portfolios ih =>
      obtain ⟨hfirst, hrest⟩ := List.nodup_cons.mp hnodup
      refine List.pairwise_cons.mpr ⟨fun j hj => ?_, ih hrest⟩
      obtain ⟨n, hn, hjid, hjp, hjkey⟩ := hlater portfolios (position + 1) j hj
      have hne : position ≠ n := by omega
      refine ⟨fun h => hfirst ?_, fun h => hne (hid (h.trans hjid)), fun h => hne ?_⟩
      · have hportfolio : portfolio.portfolioId = j.portfolioId := h.2
        simpa only [hportfolio] using hjp
      · exact itemKey_position (h.trans hjkey)

theorem batchId_newItems {position : Nat} {portfolios : List MaterializedPortfolio}
    {j : BatchItemRow}
    (hj : j ∈ newItems normalizedKey asOfDate batchId itemId now position portfolios) :
    j.batchId = batchId ∧ ∃ n, j.batchItemId = itemId n := by
  induction portfolios generalizing position with
  | nil => cases hj
  | cons portfolio portfolios ih =>
      rcases List.mem_cons.mp hj with rfl | hj
      · exact ⟨rfl, position, rfl⟩
      · exact ih hj

end Insertion

section Outcome

variable {py : Runtime} {s : BatchLedger} {request : BatchCreateRequest}
  {callerContext : ReportCallerContext} {idempotencyKey : Option String} {batchId : String}
  {itemId : Nat → String} {now : Instant} {materialized : List MaterializedPortfolio}

/-- What a creation returns, whatever it stores. -/
def createOutcome (py : Runtime) (s : BatchLedger) (request : BatchCreateRequest)
    (callerContext : ReportCallerContext) (idempotencyKey : Option String) (batchId : String)
    (itemId : Nat → String) (now : Instant) : Transaction ReportBatchRecord :=
  (s.createBatch py request callerContext idempotencyKey batchId itemId now).map Prod.fst

theorem createBatch_eq (hkey : strip (idempotencyKey.getD "") ≠ "")
    (hm : materializePortfolios py request callerContext = .ok materialized) :
    s.createBatch py request callerContext idempotencyKey batchId itemId now =
      match s.batches.lookup? (strip (idempotencyKey.getD "")) with
      | some existing =>
          if existing.requestHash ≠ computeBatchRequestHash py request callerContext materialized
          then .error .idempotencyConflict
          else (s.loadBatch existing.batchId).bind fun record => .ok (record, s)
      | none =>
          match s.batches.insert? (newBatch py request callerContext
              (strip (idempotencyKey.getD "")) batchId now materialized) with
          | none => .error .integrity
          | some batches =>
              (BatchLedger.insertItems (strip (idempotencyKey.getD "")) request.asOfDate batchId
                itemId (dtToText now) 1 materialized { s with batches := batches }).bind fun s' =>
                  (s'.loadBatch batchId).bind fun record => .ok (record, s') := by
  unfold BatchLedger.createBatch
  simp only [if_neg hkey, hm, Except.mapError]
  rfl

theorem createBatch_cases {s' : BatchLedger} {record : ReportBatchRecord}
    (h : s.createBatch py request callerContext idempotencyKey batchId itemId now =
      .ok (record, s')) :
    (s.batches.lookup? (strip (idempotencyKey.getD "")) = some record.batch ∧ s' = s) ∨
      ∃ materialized, record.batch = newBatch py request callerContext
          (strip (idempotencyKey.getD "")) batchId now materialized ∧
        s.batches.lookup? (strip (idempotencyKey.getD "")) = none ∧
        s.batches.find? batchId = none ∧ s'.batches.rows = s.batches.rows ++ [record.batch] := by
  by_cases hkey : strip (idempotencyKey.getD "") = ""
  · simp [BatchLedger.createBatch, hkey] at h
  · cases hm : materializePortfolios py request callerContext with
    | error e => simp [BatchLedger.createBatch, hkey, hm, Except.mapError, bind, Except.bind] at h
    | ok materialized =>
        rw [createBatch_eq hkey hm] at h
        split at h
        · rename_i existing hheld
          split at h
          · cases h
          · have hfind := Table.find?_key (Table.mem_of_lookup? hheld)
            simp only [BatchLedger.loadBatch, hfind, Except.bind, Except.ok.injEq,
              Prod.mk.injEq] at h
            exact Or.inl ⟨by rw [hheld, ← h.1], h.2.symm⟩
        · rename_i hfree
          split at h
          · cases h
          · rename_i batches hinsert
            obtain ⟨hfresh, -, hrows⟩ := (Table.insert?_eq_some_iff _ _ _).mp hinsert
            cases hitems : BatchLedger.insertItems (strip (idempotencyKey.getD ""))
                request.asOfDate batchId itemId (dtToText now) 1 materialized
                { s with batches := batches } with
            | error e => simp [hitems, Except.bind] at h
            | ok s₁ =>
                have hbatches : s₁.batches = batches := (insertItems_eq_ok hitems).1
                have hnew : s₁.batches.find? batchId = some (newBatch py request callerContext
                    (strip (idempotencyKey.getD "")) batchId now materialized) := by
                  refine (Table.find?_eq_some_iff _ _ _).mpr ⟨?_, rfl⟩
                  rw [hbatches, hrows]
                  exact List.mem_append_right _ List.mem_cons_self
                simp only [hitems, Except.bind, BatchLedger.loadBatch, hnew, Except.ok.injEq,
                  Prod.mk.injEq] at h
                have hrecord := congrArg ReportBatchRecord.batch h.1
                refine Or.inr ⟨materialized, hrecord.symm, hfree, hfresh, ?_⟩
                rw [← h.2, hbatches, hrows, ← hrecord]

theorem createOutcome_of_held (hkey : strip (idempotencyKey.getD "") ≠ "")
    (hm : materializePortfolios py request callerContext = .ok materialized) {existing : BatchRow}
    (hheld : s.batches.lookup? (strip (idempotencyKey.getD "")) = some existing) :
    createOutcome py s request callerContext idempotencyKey batchId itemId now =
      if existing.requestHash ≠ computeBatchRequestHash py request callerContext materialized
      then .error .idempotencyConflict
      else .ok ⟨existing, BatchLedger.byPosition (s.itemsOf existing.batchId)⟩ := by
  have hload : s.loadBatch existing.batchId =
      .ok ⟨existing, BatchLedger.byPosition (s.itemsOf existing.batchId)⟩ := by
    simp only [BatchLedger.loadBatch, Table.find?_key (Table.mem_of_lookup? hheld)]
  rw [createOutcome, createBatch_eq hkey hm, hheld]
  simp only [hload]
  split <;> rfl

/-- The generated identifiers are new. -/
structure FreshIds (s : BatchLedger) (batchId : String) (itemId : Nat → String) : Prop where
  batch : ∀ b ∈ s.batches.rows, b.batchId ≠ batchId
  item : ∀ i ∈ s.items.rows, ∀ n, i.batchItemId ≠ itemId n
  distinct : Function.Injective itemId

/-- A stored item holds one of the keys. -/
def BatchLedger.HoldsItemKey (s : BatchLedger) (keys : List String) : Prop :=
  ∃ i ∈ s.items.rows, i.itemIdempotencyKey ∈ keys

theorem insert?_newBatch (py : Runtime) (request : BatchCreateRequest)
    (callerContext : ReportCallerContext) (now : Instant)
    (materialized : List MaterializedPortfolio) (hfresh : FreshIds s batchId itemId)
    {normalizedKey : String}
    (hfree : s.batches.lookup? normalizedKey = none) :
    ∃ batches, s.batches.insert? (newBatch py request callerContext normalizedKey batchId now
        materialized) = some batches ∧
      batches.rows = s.batches.rows ++
        [newBatch py request callerContext normalizedKey batchId now materialized] := by
  cases hinsert : s.batches.insert? (newBatch py request callerContext normalizedKey batchId now
      materialized) with
  | none =>
      have hid : s.batches.find? batchId = none := (Table.find?_eq_none_iff _ _).mpr hfresh.batch
      exact absurd ⟨hid, hfree⟩ ((Table.insert?_eq_none_iff _ _).mp hinsert)
  | some batches =>
      exact ⟨batches, rfl, ((Table.insert?_eq_some_iff _ _ _).mp hinsert).2.2⟩

theorem createOutcome_of_itemKey (hkey : strip (idempotencyKey.getD "") ≠ "")
    (hm : materializePortfolios py request callerContext = .ok materialized)
    (hfree : s.batches.lookup? (strip (idempotencyKey.getD "")) = none)
    (hfresh : FreshIds s batchId itemId)
    (hclash : s.HoldsItemKey
      (newItemKeys (strip (idempotencyKey.getD "")) request.asOfDate 1 materialized)) :
    createOutcome py s request callerContext idempotencyKey batchId itemId now =
      .error .integrity := by
  obtain ⟨i, hi, hik⟩ := hclash
  obtain ⟨batches, hinsert, -⟩ := insert?_newBatch py request callerContext now
    materialized hfresh hfree
  rw [createOutcome, createBatch_eq hkey hm, hfree]
  simp only [hinsert]
  rw [insertItems_of_key (s := { s with batches := batches }) hi hik]
  rfl

theorem createOutcome_of_free (hlinked : s.Linked)
    (hkey : strip (idempotencyKey.getD "") ≠ "")
    (hm : materializePortfolios py request callerContext = .ok materialized)
    (hfree : s.batches.lookup? (strip (idempotencyKey.getD "")) = none)
    (hfresh : FreshIds s batchId itemId)
    (hfreeItems : ¬ s.HoldsItemKey
      (newItemKeys (strip (idempotencyKey.getD "")) request.asOfDate 1 materialized)) :
    createOutcome py s request callerContext idempotencyKey batchId itemId now =
      .ok ⟨newBatch py request callerContext (strip (idempotencyKey.getD "")) batchId now
          materialized,
        BatchLedger.byPosition (newItems (strip (idempotencyKey.getD "")) request.asOfDate batchId
          itemId (dtToText now) 1 materialized)⟩ := by
  obtain ⟨batches, hinsert, hrows⟩ := insert?_newBatch py request callerContext now
    materialized hfresh hfree
  have hother : ∀ i ∈ s.items.rows, i.batchId ≠ batchId := by
    intro i hi hbatch
    obtain ⟨b, hb, hid⟩ := hlinked i hi
    exact hfresh.batch b hb (hid.trans hbatch)
  have hseparate : ∀ i ∈ s.items.rows, ∀ j ∈ newItems (strip (idempotencyKey.getD ""))
      request.asOfDate batchId itemId (dtToText now) 1 materialized, Separate i j := by
    intro i hi j hj
    obtain ⟨hbatch, n, hid⟩ := batchId_newItems hj
    refine ⟨fun h => hother i hi (h.1.trans hbatch), fun h => hfresh.item i hi n (h.trans hid),
      fun h => hfreeItems ⟨i, hi, ?_⟩⟩
    rw [h, ← map_key_newItems]
    exact List.mem_map_of_mem hj
  obtain ⟨items, hitems, hitemRows⟩ := insertItems_of_separate
    (s := { s with batches := batches }) hseparate
    (pairwise_newItems hfresh.distinct (nodup_materializePortfolios hm))
  have hfind : batches.find? batchId = some (newBatch py request callerContext
      (strip (idempotencyKey.getD "")) batchId now materialized) := by
    refine (Table.find?_eq_some_iff _ _ _).mpr ⟨?_, rfl⟩
    rw [hrows]
    exact List.mem_append_right _ List.mem_cons_self
  have hnone : s.items.rows.filter (fun i => i.batchId == batchId) = [] :=
    List.filter_eq_nil_iff.mpr fun i hi h => hother i hi (beq_iff_eq.mp h)
  have hall : (newItems (strip (idempotencyKey.getD "")) request.asOfDate batchId itemId
      (dtToText now) 1 materialized).filter (fun i => i.batchId == batchId) =
      newItems (strip (idempotencyKey.getD "")) request.asOfDate batchId itemId (dtToText now) 1
        materialized :=
    List.filter_eq_self.mpr fun j hj => beq_iff_eq.mpr (batchId_newItems hj).1
  rw [createOutcome, createBatch_eq hkey hm, hfree]
  simp only [hinsert, hitems, Except.bind, BatchLedger.loadBatch, hfind, BatchLedger.itemsOf,
    hitemRows, List.filter_append, hnone, hall, List.nil_append]
  rfl

end Outcome

end LotusReport.Batch
