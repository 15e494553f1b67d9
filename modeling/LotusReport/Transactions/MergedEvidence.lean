import LotusReport.Encoding.Updates
import LotusReport.Relational.Summaries
import LotusReport.Transactions.EarningsStatement

/-!
# The evidence of all pages

The pages of a window are merged one by one into a summary of the source product. The
summary keeps the first value of a field that identifies the window, sums up what the
pages state about themselves, and takes over what the last page lists.
-/

namespace LotusReport.Transactions

open Encoding Relational

section Purpose

/-- A decoded page and the counts with which it is merged. -/
structure MergedPage where
  payload : Fields
  returnedCount : Nat
  sourceTotal : Count
  wellFormed : Json.wellFormed (.obj payload) = true

variable (py : Platform)

/-- What Python documents of `str.upper`. -/
structure Platform.Uppercases : Prop where
  ascii : ∀ text : String, text.toList.all (fun c => c.val < 128) = true →
    py.upper text = text.map Char.toUpper
  idempotent : ∀ text, py.upper (py.upper text) = py.upper text

/-- The pages folded with `merge_transaction_source_product`. -/
def mergePages (current : Fields) (fetchedPages : Nat) :
    List MergedPage → Fields
  | [] => current
  | page :: pages =>
      mergePages (mergeTransactionSourceProduct py current page.payload page.returnedCount
        page.sourceTotal (fetchedPages + 1)) (fetchedPages + 1) pages

/-- The notes about the merged pages, with the counts of the last one. -/
def mergedNotes (pages : List MergedPage) : List Json :=
  match pages.getLast? with
  | none => []
  | some last => sourceProductNotes py (mergePages py [] 0 pages) last.returnedCount
      (some last.sourceTotal) pages.length

/-- A note of that code lists the text. -/
def Lists (notes : List Json) (code name text : String) : Prop :=
  ∃ note ∈ notes, get (asDict note) "code" = .str code ∧
    text ∈ (asList (get (asDict note) name)).map safeStr

/-- What a page states for a field of the window's identity: a text that is not blank, and for the
reporting currency whatever is there. -/
def offered (field : String) (page : MergedPage) : Option Json :=
  if field = "reporting_currency" then some (get page.payload field)
  else if strip (safeStr (get page.payload field)) = "" then none
  else some (get page.payload field)

/-- Two pages state different values for the field. -/
def Conflicting (field : String) (pages : List MergedPage) : Prop :=
  ¬(pages.filterMap (offered field)).Pairwise fun v w => pyEq py.floatValue v w = true

/-- The page states that its data are complete. -/
def StatesComplete (page : MergedPage) : Prop :=
  py.upper (strip (safeStr (get page.payload "data_quality_status"))) = "COMPLETE"

/-- The reason codes that a page states. -/
def statedReasons (page : MergedPage) : List String :=
  ((asList (get page.payload "reason_codes")).map safeStr).filter isReasonCode

/-- The securities that a page lists as missing. -/
def missingSecurities (payload : Fields) : List String :=
  (asList (get payload "missing_instrument_security_ids")).map safeStr

/-- The statuses that leave nothing to reconcile. -/
def settledStatuses : List String := ["RECONCILED", "COMPLETE"]

/-- The pages come to a status: those that are not settled have it, and unless all are settled some
page has it. -/
def ReconcilesTo (pages : List MergedPage) (status : String) : Prop :=
  (status = "RECONCILED" ∨ status ∉ settledStatuses ∧ ∃ page ∈ pages,
    pageStatus py (get page.payload "reconciliation_status") = status) ∧
  ∀ page ∈ pages, pageStatus py (get page.payload "reconciliation_status") = status ∨
    pageStatus py (get page.payload "reconciliation_status") ∈ settledStatuses

/-- The verdicts of merged evidence. -/
@[ext] structure Verdicts where
  conflictNoted : Prop
  conflicts : Set String
  complete : Prop
  /-- The status of the reconciliation, unless it is unknown. -/
  reconciliation : Set String
  missingTrustFields : Set String
  reasonCodes : Json
  missingSecurities : Set String

/-- The verdicts of the merged source product and its notes. -/
def verdicts (pages : List MergedPage) : Verdicts where
  conflictNoted := ∃ note ∈ mergedNotes py pages,
    get (asDict note) "code" = .str "transaction_window_source_identity_incoherent"
  conflicts := {field |
    Lists (mergedNotes py pages) "transaction_window_source_identity_incoherent" "fields" field}
  complete := get (mergePages py [] 0 pages) "data_quality_status" = .str "COMPLETE"
  reconciliation := {status | status ≠ "UNKNOWN" ∧
    get (mergePages py [] 0 pages) "reconciliation_status" = .str status}
  missingTrustFields := {field | Lists (mergedNotes py pages)
    "transaction_window_trust_metadata_incomplete" "missing_fields" field}
  reasonCodes := get (mergePages py [] 0 pages) "reason_codes"
  missingSecurities := {id | id ∈ missingSecurities (mergePages py [] 0 pages)}

/-- The verdicts that the pages together warrant. -/
def warranted (pages : List MergedPage) : Verdicts where
  conflictNoted := ∃ field ∈ windowIdentityFields, Conflicting py field pages
  conflicts := {field | field ∈ windowIdentityFields ∧ Conflicting py field pages}
  complete := ∀ page ∈ pages, StatesComplete py page
  reconciliation := {status | status ≠ "UNKNOWN" ∧ ReconcilesTo py pages status}
  missingTrustFields := {field | ∃ page ∈ pages, field ∈ missingTrustFields page.payload}
  reasonCodes := .ofTexts ((sortedSet (pages.flatMap statedReasons)).take maxSourceReasonCodes)
  missingSecurities := {id | ∃ page ∈ pages, id ∈ missingSecurities page.payload}

/-- The merged evidence describes all pages, in whatever order they come. -/
def DescribesAll (pages : List MergedPage) : Prop :=
  verdicts py pages = warranted py pages ∧
    ∀ pages', pages'.Perm pages → verdicts py pages' = verdicts py pages

/-- Some pages do not state the field, and those that do agree on a value other than the default. -/
def Unsettled (field default : String) (pages : List MergedPage) : Prop :=
  (∃ page ∈ pages, offered field page = none) ∧
    (∃ page ∈ pages, ∃ v ∈ offered field page, v ≠ .str default) ∧ ¬Conflicting py field pages

/-- The product is named and versioned by all pages, by none, as the default or in conflict, and
the pages that list missing securities list the same ones. -/
structure Settled (pages : List MergedPage) : Prop where
  name : ¬Unsettled py "product_name" "TransactionLedgerWindow" pages
  version : ¬Unsettled py "product_version" "v1" pages
  securities : ∀ p ∈ pages, ∀ q ∈ pages, missingSecurities p.payload ≠ [] →
    missingSecurities q.payload ≠ [] →
      ∀ id ∈ missingSecurities p.payload, id ∈ missingSecurities q.payload

end Purpose

section Merge

variable {py : Platform} {current payload : Fields} {returnedCount fetchedPages : Nat}
  {sourceTotal : Count} {name : String}

theorem lookup_setDefault (fields : Fields) (key : String) (value : Json) :
    Json.lookup (setDefault fields key value) name =
      if name = key then (Json.lookup fields name).or (some value) else Json.lookup fields name := by
  unfold setDefault
  by_cases hname : name = key
  · subst hname
    rw [if_pos rfl]
    cases h : Json.lookup fields name with
    | none =>
        rw [Option.isSome_none, if_neg Bool.false_ne_true, lookup_assign_self]
        rfl
    | some v => rw [Option.isSome_some, if_pos rfl, h, Option.some_or]
  · rw [if_neg hname]
    split
    · rfl
    · exact lookup_assign_of_ne hname

/-- What a page hands over under a name. -/
def handed (payload : Fields) (name : String) : Option Json :=
  if get payload name = .null ∨ name ∈ missingTrustFields payload then none
  else some (get payload name)

theorem lookup_handOver_fold {names : List String} (hnodup : names.Nodup)
    (hidentity : name ∈ windowIdentityFields) :
    Json.lookup (names.foldl (fun product field =>
        if get payload field == .null || field ∈ missingTrustFields payload ||
          (field ∈ windowIdentityFields && (Json.lookup product field).isSome) then product
        else Json.assign product field (get payload field)) current) name =
      if name ∈ names then (Json.lookup current name).or (handed payload name)
      else Json.lookup current name := by
  induction names generalizing current with
  | nil => rfl
  | cons field names ih =>
      obtain ⟨hnew, hrest⟩ := List.nodup_cons.mp hnodup
      rw [List.foldl_cons, ih hrest]
      by_cases hname : name = field
      · subst hname
        rw [if_neg hnew, if_pos List.mem_cons_self]
        cases hcurrent : Json.lookup current name with
        | some v => simp [hidentity, hcurrent]
        | none =>
            simp only [Option.isSome_none, Bool.and_false, Bool.or_false, Bool.or_eq_true,
              beq_iff_eq, decide_eq_true_eq, Option.none_or, handed]
            split
            · exact hcurrent
            · exact lookup_assign_self
      · have hmem : name ∈ field :: names ↔ name ∈ names := by
          rw [List.mem_cons, or_iff_right hname]
        have hsame : Json.lookup (if get payload field == .null ||
            field ∈ missingTrustFields payload ||
              (field ∈ windowIdentityFields && (Json.lookup current field).isSome) then current
            else Json.assign current field (get payload field)) name = Json.lookup current name := by
          split
          · rfl
          · exact lookup_assign_of_ne hname
        rw [hsame]
        simp only [hmem]

theorem lookup_handOver (hidentity : name ∈ windowIdentityFields) :
    Json.lookup (handOverFields current payload) name =
      (Json.lookup current name).or (handed payload name) := by
  rw [handOverFields, lookup_handOver_fold (by decide) hidentity, if_pos]
  revert hidentity
  revert name
  decide

theorem merge_eq : mergeTransactionSourceProduct py current payload returnedCount sourceTotal
    fetchedPages =
      match asList (get payload "missing_instrument_security_ids") with
      | [] => Json.update (filledFields current payload)
          (@assignedFields py current payload returnedCount sourceTotal fetchedPages)
      | ids => Json.assign (Json.update (filledFields current payload)
          (@assignedFields py current payload returnedCount sourceTotal fetchedPages))
          "missing_instrument_security_ids" (.ofTexts (ids.map safeStr)) :=
  rfl

theorem lookup_merge {v : Json} (hne : name ≠ "missing_instrument_security_ids")
    (h : Json.lookup (@assignedFields py current payload returnedCount sourceTotal fetchedPages)
      name = some v) :
    Json.lookup (mergeTransactionSourceProduct py current payload returnedCount sourceTotal
      fetchedPages) name = some v := by
  have hdistinct : Distinct (@assignedFields py current payload returnedCount sourceTotal
      fetchedPages) := by
    show (List.map Prod.fst _).Nodup
    simp only [assignedFields, List.map_cons, List.map_nil]
    decide
  have hupdate : Json.lookup (Json.update (filledFields current payload)
      (@assignedFields py current payload returnedCount sourceTotal fetchedPages)) name =
        some v := by
    rw [Json.lookup_update hdistinct, h, Option.some_or]
  rw [merge_eq]
  split
  · exact hupdate
  · rw [lookup_assign_of_ne hne, hupdate]

theorem pageRecords_merge : pageRecords (mergeTransactionSourceProduct py current payload
    returnedCount sourceTotal fetchedPages) =
      pageRecords current ++ [asDict (pageEvidence py current payload fetchedPages)] := by
  have hpages : get (mergeTransactionSourceProduct py current payload returnedCount sourceTotal
      fetchedPages) "page_evidence" =
        .arr ((pageRecords current).map Json.obj ++ [pageEvidence py current payload fetchedPages]) := by
    rw [get, lookup_merge (by decide) rfl]
    rfl
  rw [pageRecords, hpages, asList, List.filterMap_append, List.filterMap_map]
  congr 1
  exact List.filterMap_some

/-- The summary of the source product sums up its page records. -/
structure SumsUp (py : Platform) (product : Fields) : Prop where
  quality : get product "data_quality_status" =
    .str (aggregatePageStatus py (pageRecords product) "data_quality_status")
  reconciliation : get product "reconciliation_status" =
    .str (aggregatePageStatus py (pageRecords product) "reconciliation_status")
  reasons : get product "reason_codes" = .ofTexts ((sortedSet
    (((pageRecords product).flatMap fun page => asList (get page "reason_codes")).map
      safeStr)).take maxSourceReasonCodes)

theorem sumsUp_merge : SumsUp py (mergeTransactionSourceProduct py current payload returnedCount
    sourceTotal fetchedPages) := by
  have hrecords : pageRecords (mergeTransactionSourceProduct py current payload returnedCount
      sourceTotal fetchedPages) = ((pageRecords current).map Json.obj ++
        [pageEvidence py current payload fetchedPages]).filterMap dict? := by
    rw [pageRecords_merge, List.filterMap_append, List.filterMap_map]
    congr 1
    exact List.filterMap_some.symm
  constructor
  · rw [hrecords, get, lookup_merge (by decide) rfl]
    rfl
  · rw [hrecords, get, lookup_merge (by decide) rfl]
    rfl
  · rw [hrecords, get, lookup_merge (by decide) rfl]
    rfl

theorem safeStr_ofTexts (texts : List String) : (asList (.ofTexts texts)).map safeStr = texts := by
  rw [Json.ofTexts, asList, List.map_map]
  exact List.map_id texts

/-- The securities are those of the last page that lists any. -/
theorem missingSecurities_merge : missingSecurities (mergeTransactionSourceProduct py current payload
    returnedCount sourceTotal fetchedPages) =
      if missingSecurities payload = [] then missingSecurities current
      else missingSecurities payload := by
  have hhanded : ∀ names : List String, "missing_instrument_security_ids" ∉ names →
      ∀ product, Json.lookup (names.foldl (fun product field =>
        if get payload field == .null || field ∈ missingTrustFields payload ||
          (field ∈ windowIdentityFields && (Json.lookup product field).isSome) then product
        else Json.assign product field (get payload field)) product)
          "missing_instrument_security_ids" =
        Json.lookup product "missing_instrument_security_ids" := by
    intro names
    induction names with
    | nil => exact fun _ _ => rfl
    | cons field names ih =>
        intro hnot product
        rw [List.mem_cons, not_or] at hnot
        rw [List.foldl_cons, ih hnot.2]
        split
        · rfl
        · exact lookup_assign_of_ne hnot.1
  have hfilled : get (Json.update (filledFields current payload)
      (@assignedFields py current payload returnedCount sourceTotal fetchedPages))
        "missing_instrument_security_ids" = get current "missing_instrument_security_ids" := by
    have hnot : "missing_instrument_security_ids" ∉
        (@assignedFields py current payload returnedCount sourceTotal fetchedPages).map
          Prod.fst := by
      simp only [assignedFields, List.map_cons, List.map_nil]
      decide
    rw [get, get, Json.lookup_update_of_notMem hnot, filledFields, lookup_setDefault,
      if_neg (by decide), lookup_setDefault, if_neg (by decide), lookup_setDefault,
      if_neg (by decide), handOverFields, hhanded handedFields (by decide)]
  rw [merge_eq]
  cases hids : asList (get payload "missing_instrument_security_ids") with
  | nil =>
      rw [if_pos (by rw [missingSecurities, hids]; rfl), missingSecurities, hfilled]
      rfl
  | cons id ids =>
      have hsome : missingSecurities payload = (id :: ids).map safeStr := by
        rw [missingSecurities, hids]
      rw [hsome, if_neg (by simp), missingSecurities, get]
      dsimp only
      rw [lookup_assign_self]
      exact safeStr_ofTexts _

end Merge

section Identity

variable {py : Platform} {current : Fields} {fetchedPages : Nat} {name : String}
  {page : MergedPage} {pages : List MergedPage}

/-- The value that the summary gives a field that no page has stated. -/
def defaultOf (name : String) : Option Json :=
  if name = "product_name" then some (.str "TransactionLedgerWindow")
  else if name = "product_version" then some (.str "v1")
  else none

theorem mem_missingTrustFields {payload : Fields} :
    name ∈ missingTrustFields payload ↔ name ∈ trustFields ∧ strip (safeStr (get payload name)) = "" := by
  rw [missingTrustFields, List.mem_filter, beq_iff_eq]

theorem trustField_of_identity : ∀ field ∈ windowIdentityFields, field ≠ "reporting_currency" →
    field ∈ trustFields := by
  decide

theorem handed_eq_offered (hidentity : name ∈ windowIdentityFields)
    (hcurrency : name ≠ "reporting_currency") : handed page.payload name = offered name page := by
  have htrust := trustField_of_identity name hidentity hcurrency
  rw [handed, offered, if_neg hcurrency]
  by_cases hblank : strip (safeStr (get page.payload name)) = ""
  · rw [if_pos hblank, if_pos (.inr (mem_missingTrustFields.mpr ⟨htrust, hblank⟩))]
  · rw [if_neg hblank, if_neg]
    rintro (hnull | hmissing)
    · rw [hnull] at hblank
      exact hblank (by decide)
    · exact hblank (mem_missingTrustFields.mp hmissing).2

/-- A field of the window's identity holds its first value, or else the default. -/
theorem lookup_merge_identity (hidentity : name ∈ windowIdentityFields) :
    Json.lookup (mergeTransactionSourceProduct py current page.payload page.returnedCount
      page.sourceTotal fetchedPages) name =
        (Json.lookup current name).or ((offered name page).or (defaultOf name)) := by
  have hne : name ≠ "missing_instrument_security_ids" := by
    rintro rfl
    revert hidentity
    decide
  have hnot : name ∉ (@assignedFields py current page.payload page.returnedCount page.sourceTotal
      fetchedPages).map Prod.fst := by
    simp only [assignedFields, List.map_cons, List.map_nil]
    revert name
    decide
  have hfilled : Json.lookup (Json.update (filledFields current page.payload)
      (@assignedFields py current page.payload page.returnedCount page.sourceTotal fetchedPages))
        name = (Json.lookup current name).or ((offered name page).or (defaultOf name)) := by
    rw [Json.lookup_update_of_notMem hnot, filledFields, lookup_setDefault, lookup_setDefault,
      lookup_setDefault, lookup_handOver hidentity]
    by_cases hcurrency : name = "reporting_currency"
    · subst hcurrency
      rw [if_neg (by decide), if_neg (by decide), if_pos rfl, offered, if_pos rfl, Option.some_or,
        Option.or_assoc]
      congr 1
      unfold handed
      split
      · rfl
      · rfl
    · rw [handed_eq_offered hidentity hcurrency, if_neg hcurrency, defaultOf]
      split
      · rename_i hversion
        rw [if_neg (by rw [hversion]; decide), if_neg (by rw [hversion]; decide), Option.or_assoc]
      · split
        · rw [Option.or_assoc]
        · rw [Option.or_none]
  rw [merge_eq]
  split
  · exact hfilled
  · rw [lookup_assign_of_ne hne, hfilled]

/-- The texts that the page records list under a name. -/
def recordTexts (product : Fields) (name : String) : List String :=
  ((pageRecords product).flatMap fun page => asList (get page name)).map safeStr

theorem recordTexts_merge {payload : Fields} {returnedCount : Nat}
    {sourceTotal : Count} {texts : List String}
    (h : get (asDict (pageEvidence py current payload fetchedPages)) name = .ofTexts texts) :
    recordTexts (mergeTransactionSourceProduct py current payload returnedCount sourceTotal
      fetchedPages) name = recordTexts current name ++ texts := by
  rw [recordTexts, recordTexts, pageRecords_merge, List.flatMap_append, List.map_append,
    List.flatMap_singleton, h, safeStr_ofTexts]

theorem mem_sortedTexts {texts : List String} {text : String} :
    text ∈ sortedTexts texts ↔ text ∈ texts := by
  rw [sortedTexts, List.mem_insertionSort]

/-- The fields in which a page departs from the summary. -/
def identityConflicts (py : Platform) (current payload : Fields) : List String :=
  sortedTexts (windowIdentityFields.filter fun field =>
    match Json.lookup current field with
    | none => false
    | some value => field ∉ missingTrustFields payload &&
        (get payload field != .null || field == "reporting_currency") &&
        !pyEq py.floatValue value (get payload field))

theorem mem_identityConflicts : name ∈ identityConflicts py current page.payload ↔
    name ∈ windowIdentityFields ∧
      ∃ v ∈ Json.lookup current name, ∃ w ∈ offered name page, ¬pyEq py.floatValue v w = true := by
  rw [identityConflicts, mem_sortedTexts, List.mem_filter]
  apply and_congr_right
  intro hidentity
  cases hcurrent : Json.lookup current name with
  | none => simp
  | some v =>
      simp only [Bool.and_eq_true, Bool.or_eq_true, decide_eq_true_eq, bne_iff_ne, beq_iff_eq,
        Bool.not_eq_true', Option.mem_def, Option.some.injEq, exists_eq_left', Bool.not_eq_true]
      by_cases hcurrency : name = "reporting_currency"
      · subst hcurrency
        have hnot : "reporting_currency" ∉ missingTrustFields page.payload := by
          rw [mem_missingTrustFields]
          exact fun h => absurd h.1 (by decide)
        rw [offered, if_pos rfl]
        simp [hnot]
      · rw [← handed_eq_offered hidentity hcurrency, handed]
        by_cases hmissing : get page.payload name = .null ∨ name ∈ missingTrustFields page.payload
        · rw [if_pos hmissing]
          simp only [hcurrency, or_false, reduceCtorEq, false_and, exists_false, iff_false]
          tauto
        · rw [if_neg hmissing]
          rw [not_or] at hmissing
          simp [hmissing, hcurrency]

theorem recordTexts_conflicts_merge : recordTexts (mergeTransactionSourceProduct py current
    page.payload page.returnedCount page.sourceTotal fetchedPages) "identity_conflicts" =
      recordTexts current "identity_conflicts" ++ identityConflicts py current page.payload :=
  recordTexts_merge rfl

/-- A field is listed as a conflict if it was listed before or the pages clash with the summary. -/
theorem mem_recordTexts_conflicts (hidentity : name ∈ windowIdentityFields) :
    name ∈ recordTexts (mergePages py current fetchedPages pages) "identity_conflicts" ↔
      name ∈ recordTexts current "identity_conflicts" ∨
        Clashes (fun v w => pyEq py.floatValue v w = true) (defaultOf name)
          (Json.lookup current name) (pages.map (offered name)) := by
  induction pages generalizing current fetchedPages with
  | nil => simp [mergePages, Clashes]
  | cons page pages ih =>
      rw [mergePages, ih, recordTexts_conflicts_merge, List.mem_append, mem_identityConflicts,
        lookup_merge_identity hidentity, List.map_cons, Clashes, or_assoc, and_iff_right hidentity]

theorem identity_of_recordTexts {product : Fields}
    (hcurrent : ∀ field ∈ recordTexts current "identity_conflicts", field ∈ windowIdentityFields)
    (h : mergePages py current fetchedPages pages = product) :
    ∀ field ∈ recordTexts product "identity_conflicts", field ∈ windowIdentityFields := by
  subst h
  induction pages generalizing current fetchedPages with
  | nil => exact hcurrent
  | cons page pages ih =>
      rw [mergePages]
      apply ih
      intro field hfield
      rw [recordTexts_conflicts_merge, List.mem_append, mem_identityConflicts] at hfield
      exact hfield.elim (hcurrent field) And.left

theorem mem_recordTexts_missing : name ∈ recordTexts (mergePages py current fetchedPages pages)
    "missing_fields" ↔ name ∈ recordTexts current "missing_fields" ∨
      ∃ page ∈ pages, name ∈ missingTrustFields page.payload := by
  induction pages generalizing current fetchedPages with
  | nil => simp [mergePages]
  | cons page pages ih =>
      have hmerge : recordTexts (mergeTransactionSourceProduct py current page.payload
          page.returnedCount page.sourceTotal (fetchedPages + 1)) "missing_fields" =
            recordTexts current "missing_fields" ++ missingTrustFields page.payload :=
        recordTexts_merge rfl
      rw [mergePages, ih, hmerge, List.mem_append, or_assoc]
      simp only [List.mem_cons, exists_eq_or_imp]

end Identity

section Sums

variable {py : Platform} {current : Fields} {fetchedPages : Nat}
  {pages : List MergedPage}

theorem sumsUp_mergePages (h : SumsUp py current ∨ pages ≠ []) :
    SumsUp py (mergePages py current fetchedPages pages) := by
  induction pages generalizing current fetchedPages with
  | nil => exact h.resolve_right (not_not.mpr rfl)
  | cons page pages ih => exact ih (.inl sumsUp_merge)

theorem pageReasonCodes_eq (page : MergedPage) : (pageReasonCodes page.payload).1 =
    (sortedSet (statedReasons page)).take maxSourceReasonCodes := by
  have hraw : asList ((Json.lookup page.payload "reason_codes").getD (.arr [])) =
      asList (get page.payload "reason_codes") := by
    rw [get]
    cases Json.lookup page.payload "reason_codes" with
    | none => rfl
    | some value => rfl
  rw [pageReasonCodes, hraw]
  rfl

theorem recordTexts_reasons : recordTexts (mergePages py current fetchedPages pages)
    "reason_codes" = recordTexts current "reason_codes" ++
      pages.flatMap fun page => (sortedSet (statedReasons page)).take maxSourceReasonCodes := by
  induction pages generalizing current fetchedPages with
  | nil => simp [mergePages]
  | cons page pages ih =>
      have hmerge : recordTexts (mergeTransactionSourceProduct py current page.payload
          page.returnedCount page.sourceTotal (fetchedPages + 1)) "reason_codes" =
            recordTexts current "reason_codes" ++ (pageReasonCodes page.payload).1 :=
        recordTexts_merge rfl
      rw [mergePages, ih, hmerge, pageReasonCodes_eq, List.append_assoc, List.flatMap_cons]

theorem pairwise_sortedSet (texts : List String) : (sortedSet texts).Pairwise (· < ·) := by
  have hsorted : (sortedSet texts).Pairwise (fun a b => a ≤ b) := List.pairwise_insertionSort _ _
  have hnodup : (sortedSet texts).Nodup :=
    (List.perm_insertionSort _ _).nodup_iff.mpr (List.nodup_dedup texts)
  exact (hsorted.and hnodup).imp fun h => lt_of_le_of_ne h.1 h.2

theorem mem_sortedSet' {texts : List String} {text : String} :
    text ∈ sortedSet texts ↔ text ∈ texts := by
  rw [sortedSet, mem_sortedTexts, List.mem_dedup]

theorem reasonCodes_mergePages (hpages : pages ≠ []) :
    get (mergePages py [] fetchedPages pages) "reason_codes" =
      .ofTexts ((sortedSet (pages.flatMap statedReasons)).take maxSourceReasonCodes) := by
  have hsums : SumsUp py (mergePages py [] fetchedPages pages) := sumsUp_mergePages (.inr hpages)
  have htexts : ((pageRecords (mergePages py [] fetchedPages pages)).flatMap fun page =>
      asList (get page "reason_codes")).map safeStr = _ := recordTexts_reasons
  rw [hsums.reasons, htexts]
  congr 1
  exact take_sort_flatMap pairwise_sortedSet (fun _ _ => mem_sortedSet') _ _ _

end Sums

section Quality

variable {py : Platform} {current : Fields} {fetchedPages : Nat}
  {pages : List MergedPage}

theorem strip_of_visible {s : String} (h : ∀ c ∈ s.toList, isSpace c = false) : strip s = s := by
  have hdrop : ∀ cs : List Char, (∀ c ∈ cs, isSpace c = false) → cs.dropWhile isSpace = cs := by
    intro cs hcs
    cases cs with
    | nil => rfl
    | cons c cs =>
        rw [List.dropWhile_cons, hcs c List.mem_cons_self]
        rfl
  rw [strip, stripChars, hdrop _ h, hdrop _ fun c hc => h c (List.mem_reverse.mp hc),
    List.reverse_reverse, String.ofList_toList]

theorem not_isSpace_of_reasonCode {text : String} (h : isReasonCode text = true) :
    ∀ c ∈ text.toList, isSpace c = false := by
  have halnum : ∀ c : Char, isAlphanumeric c = true → isSpace c = false := by
    intro c hc
    simp only [isAlphanumeric, Bool.or_eq_true, Bool.and_eq_true, decide_eq_true_eq, Char.le_def,
      UInt32.le_iff_toNat_le] at hc
    have hvalue : c.val.toNat = c.toNat := rfl
    simp only [isSpace, Bool.or_eq_false_iff, Bool.and_eq_false_iff, decide_eq_false_iff_not,
      beq_eq_false_iff_ne]
    simp only [hvalue, show 'A'.val.toNat = 65 from rfl, show 'Z'.val.toNat = 90 from rfl,
      show 'a'.val.toNat = 97 from rfl, show 'z'.val.toNat = 122 from rfl,
      show '0'.val.toNat = 48 from rfl, show '9'.val.toNat = 57 from rfl] at hc
    omega
  unfold isReasonCode at h
  split at h
  · cases h
  · rename_i c cs hchars
    rw [Bool.and_eq_true, Bool.and_eq_true, List.all_eq_true] at h
    rw [hchars]
    intro d hd
    rcases List.mem_cons.mp hd with rfl | hd
    · exact halnum d h.1.1
    · have hrest := h.2 d hd
      simp only [Bool.or_eq_true, beq_iff_eq] at hrest
      rcases hrest with (((hd | rfl) | rfl) | rfl) | rfl
      · exact halnum d hd
      all_goals rfl

theorem upper_pageStatus (hupper : py.Uppercases) (value : Json) :
    py.upper (strip (pageStatus py value)) = pageStatus py value := by
  unfold pageStatus
  dsimp only
  split
  · rename_i hcode
    rw [strip_of_visible (not_isSpace_of_reasonCode hcode), hupper.idempotent]
  · rw [show strip "UNKNOWN" = "UNKNOWN" by decide +kernel, hupper.ascii _ (by decide +kernel)]
    decide +kernel

theorem pageStatus_eq_complete_iff {value : Json} : pageStatus py value = "COMPLETE" ↔
    py.upper (strip (safeStr value)) = "COMPLETE" := by
  unfold pageStatus
  dsimp only
  split
  · rfl
  · rename_i hcode
    refine iff_of_false (by decide) fun h => hcode ?_
    rw [h]
    decide +kernel

theorem pageStatus_ne_empty {value : Json} : pageStatus py value ≠ "" := by
  unfold pageStatus
  dsimp only
  split
  · rename_i hcode
    intro hempty
    rw [hempty] at hcode
    cases hcode
  · decide

theorem dedup_eq_singleton_iff {texts : List String} {text : String} :
    texts.dedup = [text] ↔ texts ≠ [] ∧ ∀ t ∈ texts, t = text := by
  constructor
  · intro h
    refine ⟨?_, fun t ht => ?_⟩
    · rintro rfl
      cases h
    · rw [← List.mem_dedup, h] at ht
      exact List.mem_singleton.mp ht
  · rintro ⟨hne, hall⟩
    have hnodup := List.nodup_dedup texts
    have hmem : ∀ t ∈ texts.dedup, t = text := fun t ht => hall t (List.mem_dedup.mp ht)
    obtain ⟨t, ht⟩ := List.exists_mem_of_ne_nil texts hne
    have hlength : texts.dedup.length ≤ 1 := by
      have hsub : texts.dedup ⊆ [text] := fun t ht => List.mem_singleton.mpr (hmem t ht)
      exact (List.subperm_of_subset hnodup hsub).length_le
    have htext : text ∈ texts.dedup := hall t ht ▸ List.mem_dedup.mpr ht
    cases hdedup : texts.dedup with
    | nil =>
        rw [hdedup] at htext
        cases htext
    | cons a rest =>
        rw [hdedup] at hlength hmem
        have hrest := Nat.le_zero.mp (Nat.le_of_succ_le_succ hlength)
        rw [List.length_eq_zero_iff.mp hrest, hmem a List.mem_cons_self]

/-- The aggregate is complete exactly if there are pages and every one is complete. -/
theorem aggregatePageStatus_eq_complete_iff {records : List Fields} :
    aggregatePageStatus py records "data_quality_status" = "COMPLETE" ↔ records ≠ [] ∧
      ∀ record ∈ records, py.upper (strip (safeStr (get record "data_quality_status"))) =
        "COMPLETE" := by
  have hstates : (records.map fun record =>
      py.upper (strip (safeStr (get record "data_quality_status")))).dedup = ["COMPLETE"] ↔
        records ≠ [] ∧ ∀ record ∈ records,
          py.upper (strip (safeStr (get record "data_quality_status"))) = "COMPLETE" := by
    rw [dedup_eq_singleton_iff, List.forall_mem_map, Ne, List.map_eq_nil_iff]
  rw [← hstates, aggregatePageStatus]
  split
  · rename_i hunknown
    refine iff_of_false (by decide) fun h => ?_
    rw [h] at hunknown
    revert hunknown
    decide
  · rw [if_pos (beq_self_eq_true _)]
    split
    · rename_i hcomplete
      exact iff_of_true rfl (eq_of_beq hcomplete)
    · rename_i hpartial
      exact iff_of_false (by decide) fun h => hpartial (beq_of_eq h)

/-- The reconciliation of known states is the one that they come to. -/
theorem aggregatePageStatus_eq_iff {records : List Fields} {states : List String}
    (hstates : records.map (fun record =>
      py.upper (strip (safeStr (get record "reconciliation_status")))) = states)
    (hempty : "" ∉ states) {status : String} (h : status ≠ "UNKNOWN") :
    aggregatePageStatus py records "reconciliation_status" = status ↔
      (status = "RECONCILED" ∨ status ∉ settledStatuses ∧ status ∈ states) ∧
        ∀ state ∈ states, state = status ∨ state ∈ settledStatuses := by
  have hopen : ∀ state, state ∈ states.dedup.filter (fun state => state != "RECONCILED" &&
      state != "COMPLETE") ↔ state ∈ states ∧ state ∉ settledStatuses := by
    intro state
    simp [settledStatuses]
  have hnodup := (List.nodup_dedup states).filter fun state =>
    state != "RECONCILED" && state != "COMPLETE"
  rw [aggregatePageStatus, hstates]
  simp only [List.mem_dedup, hempty, decide_false, Bool.false_or, decide_eq_true_eq]
  by_cases hunknown : "UNKNOWN" ∈ states
  · rw [if_pos hunknown]
    refine iff_of_false (Ne.symm h) ?_
    rintro ⟨-, hcome⟩
    exact (hcome _ hunknown).elim (Ne.symm h) (by decide)
  rw [if_neg hunknown, if_neg (by decide)]
  generalize states.dedup.filter (fun state => state != "RECONCILED" && state != "COMPLETE") = rest
    at hopen hnodup
  cases rest with
  | nil =>
      have hall : ∀ state ∈ states, state ∈ settledStatuses := fun state hstate =>
        not_not.mp fun hnot => List.not_mem_nil ((hopen state).mpr ⟨hstate, hnot⟩)
      constructor
      · rintro rfl
        exact ⟨.inl rfl, fun state hstate => .inr (hall state hstate)⟩
      · rintro ⟨rfl | ⟨hnot, hmem⟩, -⟩
        · rfl
        · exact absurd (hall status hmem) hnot
  | cons a rest =>
      obtain ⟨ha, hnot⟩ := (hopen a).mp List.mem_cons_self
      cases rest with
      | nil =>
          constructor
          · rintro rfl
            refine ⟨.inr ⟨hnot, ha⟩, fun other hother => ?_⟩
            by_cases hopened : other ∈ settledStatuses
            · exact .inr hopened
            · exact .inl (List.mem_singleton.mp ((hopen other).mpr ⟨hother, hopened⟩))
          · rintro ⟨-, hall⟩
            exact (hall a ha).resolve_right hnot
      | cons b rest =>
          refine iff_of_false (Ne.symm h) ?_
          rintro ⟨-, hall⟩
          obtain ⟨hb, hnotB⟩ := (hopen b).mp (List.mem_cons_of_mem _ List.mem_cons_self)
          have hsame := ((hall a ha).resolve_right hnot).trans ((hall b hb).resolve_right hnotB).symm
          exact (List.nodup_cons.mp hnodup).1 (hsame ▸ List.mem_cons_self)

theorem mem_statuses {field : String}
    (hfield : field = "data_quality_status" ∨ field = "reconciliation_status") {status : Json} :
    status ∈ (pageRecords (mergePages py current fetchedPages pages)).map
        (fun record => get record field) ↔
      status ∈ (pageRecords current).map (fun record => get record field) ∨
        ∃ page ∈ pages, .str (pageStatus py (get page.payload field)) = status := by
  induction pages generalizing current fetchedPages with
  | nil => simp [mergePages]
  | cons page pages ih =>
      have hevidence : get (asDict (pageEvidence py current page.payload (fetchedPages + 1)))
          field = .str (pageStatus py (get page.payload field)) := by
        rcases hfield with rfl | rfl
        · rfl
        · rfl
      rw [mergePages, ih, pageRecords_merge, List.map_append, List.mem_append, List.map_singleton,
        List.mem_singleton, hevidence, or_assoc, @eq_comm _ status (.str _)]
      simp only [List.mem_cons, exists_eq_or_imp]

theorem mem_states (hupper : py.Uppercases) {field : String}
    (hfield : field = "data_quality_status" ∨ field = "reconciliation_status") {state : String} :
    state ∈ (pageRecords (mergePages py [] fetchedPages pages)).map
        (fun record => py.upper (strip (safeStr (get record field)))) ↔
      ∃ page ∈ pages, pageStatus py (get page.payload field) = state := by
  have hstatuses : ∀ status, status ∈ (pageRecords (mergePages py [] fetchedPages pages)).map
      (fun record => get record field) ↔
        ∃ page ∈ pages, .str (pageStatus py (get page.payload field)) = status := by
    intro status
    rw [mem_statuses hfield]
    exact or_iff_right (by simp [pageRecords, get, asList])
  have hstates : state ∈ (pageRecords (mergePages py [] fetchedPages pages)).map
      (fun record => py.upper (strip (safeStr (get record field)))) ↔
        ∃ status ∈ (pageRecords (mergePages py [] fetchedPages pages)).map
          (fun record => get record field), py.upper (strip (safeStr status)) = state := by
    rw [← List.mem_map, List.map_map]
    rfl
  rw [hstates]
  constructor
  · rintro ⟨status, hstatus, rfl⟩
    obtain ⟨page, hpage, rfl⟩ := (hstatuses status).mp hstatus
    exact ⟨page, hpage, (upper_pageStatus hupper _).symm⟩
  · rintro ⟨page, hpage, rfl⟩
    exact ⟨_, (hstatuses _).mpr ⟨page, hpage, rfl⟩, upper_pageStatus hupper _⟩

theorem quality_mergePages (hupper : py.Uppercases) (hpages : pages ≠ []) :
    get (mergePages py [] fetchedPages pages) "data_quality_status" = .str "COMPLETE" ↔
      ∀ page ∈ pages, StatesComplete py page := by
  have hsums : SumsUp py (mergePages py [] fetchedPages pages) := sumsUp_mergePages (.inr hpages)
  have hstates : ∀ state, state ∈ (pageRecords (mergePages py [] fetchedPages pages)).map
      (fun record => py.upper (strip (safeStr (get record "data_quality_status")))) ↔
        ∃ page ∈ pages, pageStatus py (get page.payload "data_quality_status") = state :=
    fun _ => mem_states hupper (.inl rfl)
  have hne : pageRecords (mergePages py [] fetchedPages pages) ≠ [] := by
    obtain ⟨page, hpage⟩ := List.exists_mem_of_ne_nil pages hpages
    intro hempty
    have hmem := (hstates _).mpr ⟨page, hpage, rfl⟩
    rw [hempty] at hmem
    cases hmem
  rw [hsums.quality, Json.str.injEq, aggregatePageStatus_eq_complete_iff, and_iff_right hne,
    ← List.forall_mem_map (P := (· = "COMPLETE"))]
  simp only [hstates, forall_exists_index, and_imp, forall_apply_eq_imp_iff₂,
    pageStatus_eq_complete_iff, StatesComplete]

theorem reconciliation_mergePages (hupper : py.Uppercases) (hpages : pages ≠ []) {status : String}
    (hstatus : status ≠ "UNKNOWN") :
    get (mergePages py [] fetchedPages pages) "reconciliation_status" = .str status ↔
      ReconcilesTo py pages status := by
  have hsums : SumsUp py (mergePages py [] fetchedPages pages) := sumsUp_mergePages (.inr hpages)
  have hstates : ∀ state, state ∈ (pageRecords (mergePages py [] fetchedPages pages)).map
      (fun record => py.upper (strip (safeStr (get record "reconciliation_status")))) ↔
        ∃ page ∈ pages, pageStatus py (get page.payload "reconciliation_status") = state :=
    fun _ => mem_states hupper (.inr rfl)
  have hempty : "" ∉ (pageRecords (mergePages py [] fetchedPages pages)).map
      (fun record => py.upper (strip (safeStr (get record "reconciliation_status")))) := by
    rw [hstates]
    rintro ⟨page, -, hempty⟩
    exact pageStatus_ne_empty hempty
  rw [hsums.reconciliation, Json.str.injEq, aggregatePageStatus_eq_iff rfl hempty hstatus]
  simp only [hstates, forall_exists_index, and_imp, forall_apply_eq_imp_iff₂]
  rfl

end Quality

section Securities

variable {py : Platform} {current : Fields} {fetchedPages : Nat}
  {pages : List MergedPage}

/-- The securities are those of the last page that lists any. -/
theorem missingSecurities_concat {page : MergedPage} :
    missingSecurities (mergePages py current fetchedPages (pages ++ [page])) =
      if missingSecurities page.payload = [] then
        missingSecurities (mergePages py current fetchedPages pages)
      else missingSecurities page.payload := by
  induction pages generalizing current fetchedPages with
  | nil =>
      rw [List.nil_append, mergePages, mergePages, mergePages, missingSecurities_merge]
  | cons first pages ih => rw [List.cons_append, mergePages, ih, mergePages]

/-- The listed securities are some page's, and none only if no page lists any. -/
theorem missingSecurities_mergePages : (∀ page ∈ pages, missingSecurities page.payload = []) ∧
    missingSecurities (mergePages py [] fetchedPages pages) = [] ∨
      ∃ page ∈ pages, missingSecurities page.payload ≠ [] ∧
        missingSecurities (mergePages py [] fetchedPages pages) =
          missingSecurities page.payload := by
  induction pages using List.reverseRecOn with
  | nil => exact .inl ⟨fun _ h => (by cases h), rfl⟩
  | append_singleton pages page ih =>
      rw [missingSecurities_concat]
      by_cases hnone : missingSecurities page.payload = []
      · rw [if_pos hnone]
        rcases ih with ⟨hall, hempty⟩ | ⟨other, hother, hne, heq⟩
        · refine .inl ⟨fun p hp => ?_, hempty⟩
          rcases List.mem_append.mp hp with hp | hp
          · exact hall p hp
          · rw [List.mem_singleton.mp hp]
            exact hnone
        · exact .inr ⟨other, List.mem_append_left _ hother, hne, heq⟩
      · rw [if_neg hnone]
        exact .inr ⟨page, List.mem_append_right _ (List.mem_singleton_self page), hnone, rfl⟩

end Securities

section Notes

variable {py : Platform} {product : Fields} {returnedCount fetchedPages : Nat}
  {sourceTotal : Option Count} {code name text : String}

theorem exists_noteIf {present : Bool} {fields : Fields} {P : Json → Prop} :
    (∃ note ∈ noteIf present fields, P note) ↔ present = true ∧ P (.obj fields) := by
  cases present with
  | true => simp [noteIf]
  | false => simp [noteIf]

theorem get_code (value : Json) (fields : Fields) :
    get (asDict (.obj (("code", value) :: fields))) "code" = value :=
  rfl

theorem not_isEmpty_iff {texts : List String} : (!texts.isEmpty) = true ↔ texts ≠ [] := by
  cases texts with
  | nil => simp
  | cons text texts => simp

/-- The note about conflicts lists what the page records list. -/
theorem exists_conflictNote {P : Json → Prop} :
    (∃ note ∈ sourceProductNotes py product returnedCount sourceTotal fetchedPages,
      get (asDict note) "code" = .str "transaction_window_source_identity_incoherent" ∧
        P (get (asDict note) "fields")) ↔
      sortedSet (recordTexts product "identity_conflicts") ≠ [] ∧
        P (.ofTexts (sortedSet (recordTexts product "identity_conflicts"))) := by
  simp only [sourceProductNotes, List.mem_append, or_and_right, exists_or, exists_noteIf,
    List.cons_append, get_code, Json.str.injEq, String.reduceEq, false_and, and_false, or_false,
    false_or, true_and, not_isEmpty_iff]
  rfl

theorem exists_missingNote {P : Json → Prop} (hpages : pageRecords product ≠ []) :
    (∃ note ∈ sourceProductNotes py product returnedCount sourceTotal fetchedPages,
      get (asDict note) "code" = .str "transaction_window_trust_metadata_incomplete" ∧
        P (get (asDict note) "missing_fields")) ↔
      sortedSet (recordTexts product "missing_fields") ≠ [] ∧
        P (.ofTexts (sortedSet (recordTexts product "missing_fields"))) := by
  have hsome : (pageRecords product).isEmpty = false := by
    rw [← Bool.not_eq_true, List.isEmpty_iff]
    exact hpages
  simp only [sourceProductNotes, List.mem_append, or_and_right, exists_or, exists_noteIf,
    List.cons_append, get_code, Json.str.injEq, String.reduceEq, false_and, and_false, or_false,
    true_and, not_isEmpty_iff, hsome, Bool.false_eq_true, if_false]
  rfl

theorem sortedTextsListed_iff {texts : List String} : sortedSet texts ≠ [] ∧
    text ∈ (asList (.ofTexts (sortedSet texts))).map safeStr ↔ text ∈ texts := by
  rw [safeStr_ofTexts, mem_sortedSet']
  refine and_iff_right_of_imp fun htext hempty => ?_
  rw [← mem_sortedSet', hempty] at htext
  cases htext

end Notes

section Conflicts

variable {py : Platform} {pages pages' : List MergedPage} {page : MergedPage} {field default : String}
  {v w : Json}

theorem wellFormed_offered (h : offered field page = some v) : Json.wellFormed v = true := by
  have hget : Json.wellFormed (get page.payload field) = true := by
    rw [get]
    cases hlookup : Json.lookup page.payload field with
    | none => rfl
    | some value => exact (Json.wellFormed_obj.mp page.wellFormed).2 _ (mem_of_lookup hlookup)
  unfold offered at h
  split at h
  · rwa [← Option.some.inj h]
  · split at h
    · cases h
    · rwa [← Option.some.inj h]

theorem pyEq_symm_offered (hw : some w ∈ pages.map (offered field))
    (h : pyEq py.floatValue v w = true) : pyEq py.floatValue w v = true := by
  obtain ⟨page, -, hoffered⟩ := List.mem_map.mp hw
  exact pyEq_symm w (wellFormed_offered hoffered) h

/-- Without a default the pages clash exactly if two of them conflict. -/
theorem clashes_iff_conflicting : Clashes (fun v w => pyEq py.floatValue v w = true) none none
    (pages.map (offered field)) ↔ Conflicting py field pages := by
  rw [clashes_none_iff (fun _ _ _ hw h => pyEq_symm_offered hw h) (fun a _ _ => pyEq_trans a),
    List.filterMap_map, Conflicting]
  rfl

/-- The first page lacks the field and another page states a value other than the default. -/
def Departs (field default : String) (pages : List MergedPage) : Prop :=
  (∃ page ∈ pages.head?, offered field page = none) ∧
    ∃ page ∈ pages, ∃ v ∈ offered field page, v ≠ .str default

theorem departs_of_conflicting (h : Conflicting py field pages) :
    ∃ page ∈ pages, ∃ v ∈ offered field page, v ≠ .str default := by
  by_contra hnone
  push Not at hnone
  apply h
  have hall : ∀ v ∈ pages.filterMap (offered field), v = .str default := by
    intro v hv
    obtain ⟨page, hpage, hoffered⟩ := List.mem_filterMap.mp hv
    exact hnone page hpage v hoffered
  apply List.pairwise_of_forall_mem_list
  intro v hv w hw
  rw [hall v hv, hall w hw]
  exact pyEq_str_left.mpr rfl

theorem clashes_default_iff : Clashes (fun v w => pyEq py.floatValue v w = true)
    (some (.str default)) none (pages.map (offered field)) ↔
      Conflicting py field pages ∨ Departs field default pages := by
  cases pages with
  | nil =>
      rw [← clashes_iff_conflicting]
      simp [Clashes, Departs]
  | cons page pages =>
      cases hoffered : offered field page with
      | some v =>
          have hnot : ¬Departs field default (page :: pages) := by
            rintro ⟨⟨p, hp, hnone⟩, -⟩
            cases hp
            rw [hoffered] at hnone
            cases hnone
          rw [or_iff_left hnot, ← clashes_iff_conflicting, List.map_cons, hoffered, clashes_offered,
            clashes_offered]
      | none =>
          have hdeparts : Departs field default (page :: pages) ↔
              ∃ p ∈ page :: pages, ∃ v ∈ offered field p, v ≠ .str default :=
            and_iff_right ⟨page, rfl, hoffered⟩
          rw [or_iff_right_of_imp (fun h => hdeparts.mpr (departs_of_conflicting h)), hdeparts,
            List.map_cons, hoffered, clashes_unoffered, clashes_some]
          constructor
          · rintro ⟨w, hw, hne⟩
            obtain ⟨p, hp, hpw⟩ := List.mem_map.mp hw
            exact ⟨p, List.mem_cons_of_mem _ hp, w, hpw, fun heq => hne (pyEq_str_left.mpr heq)⟩
          · rintro ⟨p, hp, w, hw, hne⟩
            rcases List.mem_cons.mp hp with rfl | hp
            · rw [hoffered] at hw
              cases hw
            · refine ⟨w, List.mem_map.mpr ⟨p, hp, hw⟩, fun heq => hne (pyEq_str_left.mp heq)⟩

theorem conflicting_perm (h : pages'.Perm pages) :
    Conflicting py field pages' ↔ Conflicting py field pages := by
  have hboth : ∀ pages : List MergedPage,
      (pages.filterMap (offered field)).Pairwise (fun v w => pyEq py.floatValue v w = true) ↔
        (pages.filterMap (offered field)).Pairwise fun v w =>
          pyEq py.floatValue v w = true ∧ pyEq py.floatValue w v = true := by
    intro pages
    refine ⟨fun hpairwise => hpairwise.imp_of_mem fun _ hw heq => ⟨heq, ?_⟩,
      fun hpairwise => hpairwise.imp And.left⟩
    obtain ⟨page, -, hoffered⟩ := List.mem_filterMap.mp hw
    exact pyEq_symm _ (wellFormed_offered hoffered) heq
  rw [Conflicting, Conflicting, hboth, hboth,
    (h.filterMap (offered field)).pairwise_iff fun hvw => And.symm hvw]

end Conflicts

section Result

variable {py : Platform} {pages : List MergedPage}

theorem pageRecords_ne_nil (hpages : pages ≠ []) {fetchedPages : Nat}
    {current : Fields} : pageRecords (mergePages py current fetchedPages pages) ≠ [] := by
  have hgrows : ∀ (pages : List MergedPage) (current : Fields) (fetchedPages : Nat),
      (pageRecords current).length + pages.length =
        (pageRecords (mergePages py current fetchedPages pages)).length := by
    intro pages
    induction pages with
    | nil => exact fun _ _ => rfl
    | cons page pages ih =>
        intro current fetchedPages
        rw [mergePages, ← ih, pageRecords_merge, List.length_append, List.length_cons,
          List.length_singleton]
        omega
  have hlength := hgrows pages current fetchedPages
  have hpos := List.length_pos_iff_ne_nil.mpr hpages
  rw [← List.length_pos_iff_ne_nil]
  omega

theorem mem_conflicts_iff (hpages : pages ≠ []) {field : String} :
    field ∈ (verdicts py pages).conflicts ↔ field ∈ windowIdentityFields ∧
      Clashes (fun v w => pyEq py.floatValue v w = true) (defaultOf field) none
        (pages.map (offered field)) := by
  obtain ⟨last, hlast⟩ := Option.ne_none_iff_exists'.mp (List.getLast?_eq_none_iff.not.mpr hpages)
  have hnotes : mergedNotes py pages = sourceProductNotes py (mergePages py [] 0 pages)
      last.returnedCount (some last.sourceTotal) pages.length := by
    rw [mergedNotes, hlast]
  have hlisted : field ∈ (verdicts py pages).conflicts ↔
      field ∈ recordTexts (mergePages py [] 0 pages) "identity_conflicts" := by
    show Lists (mergedNotes py pages) _ _ _ ↔ _
    rw [hnotes, Lists, exists_conflictNote (P := fun fields => field ∈ (asList fields).map safeStr),
      sortedTextsListed_iff]
  rw [hlisted]
  have hnone : field ∉ recordTexts [] "identity_conflicts" := List.not_mem_nil
  constructor
  · intro h
    have hidentity := identity_of_recordTexts (fun f hf => by cases hf) rfl field h
    rw [mem_recordTexts_conflicts hidentity] at h
    exact ⟨hidentity, h.resolve_left hnone⟩
  · rintro ⟨hidentity, h⟩
    rw [mem_recordTexts_conflicts hidentity]
    exact .inr h

/-- A field is listed if two pages conflict, or the first leaves it to a default that others depart
from. -/
theorem mem_conflicts_iff_departs (hpages : pages ≠ []) {field : String} :
    field ∈ (verdicts py pages).conflicts ↔ field ∈ windowIdentityFields ∧
      (Conflicting py field pages ∨
        ∃ default, defaultOf field = some (.str default) ∧ Departs field default pages) := by
  rw [mem_conflicts_iff hpages]
  apply and_congr_right
  intro _
  cases hdefault : defaultOf field with
  | none =>
      rw [clashes_iff_conflicting]
      simp
  | some value =>
      have hstr : ∃ default, value = .str default := by
        unfold defaultOf at hdefault
        split at hdefault
        · exact ⟨_, (Option.some.inj hdefault).symm⟩
        · split at hdefault
          · exact ⟨_, (Option.some.inj hdefault).symm⟩
          · cases hdefault
      obtain ⟨default, rfl⟩ := hstr
      rw [clashes_default_iff]
      simp

theorem exists_mergedNotes (hpages : pages ≠ []) : ∃ returned total, mergedNotes py pages =
    sourceProductNotes py (mergePages py [] 0 pages) returned total pages.length := by
  obtain ⟨last, hlast⟩ := Option.ne_none_iff_exists'.mp (List.getLast?_eq_none_iff.not.mpr hpages)
  exact ⟨last.returnedCount, some last.sourceTotal, by rw [mergedNotes, hlast]⟩

/-- A conflict is noted exactly if some field is named in the note. -/
theorem conflictNoted_iff (hpages : pages ≠ []) :
    (verdicts py pages).conflictNoted ↔ ∃ field, field ∈ (verdicts py pages).conflicts := by
  obtain ⟨returned, total, hnotes⟩ := @exists_mergedNotes py pages hpages
  show (∃ note ∈ mergedNotes py pages, _) ↔ ∃ field, Lists (mergedNotes py pages) _ _ field
  constructor
  · rintro ⟨note, hnote, hcode⟩
    rw [hnotes] at hnote ⊢
    have hlisted := (exists_conflictNote (P := fun _ => True)).mp ⟨note, hnote, hcode, trivial⟩
    obtain ⟨field, hfield⟩ := List.exists_mem_of_ne_nil _ hlisted.1
    refine ⟨field, exists_conflictNote (P := fun fields => field ∈ (asList fields).map safeStr) |>.mpr
      ⟨hlisted.1, ?_⟩⟩
    rwa [safeStr_ofTexts]
  · rintro ⟨field, note, hnote, hcode, -⟩
    exact ⟨note, hnote, hcode⟩

theorem missingTrustFields_mergePages (hpages : pages ≠ []) :
    (verdicts py pages).missingTrustFields = (warranted py pages).missingTrustFields := by
  obtain ⟨returned, total, hnotes⟩ := @exists_mergedNotes py pages hpages
  ext field
  show Lists (mergedNotes py pages) _ _ _ ↔ ∃ page ∈ pages, field ∈ missingTrustFields page.payload
  rw [hnotes, Lists, exists_missingNote (P := fun fields => field ∈ (asList fields).map safeStr)
    (pageRecords_ne_nil hpages), sortedTextsListed_iff, mem_recordTexts_missing]
  exact or_iff_right List.not_mem_nil

/-- The merged evidence names only securities that a page names. -/
theorem exists_missingSecurities {id : String}
    (hid : id ∈ missingSecurities (mergePages py [] 0 pages)) :
    ∃ page ∈ pages, id ∈ missingSecurities page.payload := by
  rcases @missingSecurities_mergePages py 0 pages with ⟨-, hempty⟩ | ⟨page, hpage, -, heq⟩
  · rw [hempty] at hid
    cases hid
  · exact ⟨page, hpage, heq ▸ hid⟩

/-- When the verdicts are those that the pages warrant, in the order in which they came. -/
theorem verdicts_eq_iff (hupper : py.Uppercases) (hpages : pages ≠ []) :
    verdicts py pages = warranted py pages ↔
      (∀ field ∈ windowIdentityFields, ∀ default, defaultOf field = some (.str default) →
        Departs field default pages → Conflicting py field pages) ∧
      ∀ page ∈ pages, ∀ id ∈ missingSecurities page.payload,
        id ∈ missingSecurities (mergePages py [] 0 pages) := by
  constructor
  · intro h
    constructor
    · intro field hidentity default hdefault hdeparts
      have hlisted : field ∈ (verdicts py pages).conflicts :=
        (mem_conflicts_iff_departs hpages).mpr ⟨hidentity, .inr ⟨default, hdefault, hdeparts⟩⟩
      rw [h] at hlisted
      exact hlisted.2
    · intro page hpage id hid
      have hwarranted : id ∈ (warranted py pages).missingSecurities := ⟨page, hpage, hid⟩
      rw [← h] at hwarranted
      exact hwarranted
  · rintro ⟨hdefaults, hsecurities⟩
    have hconflicts : (verdicts py pages).conflicts = (warranted py pages).conflicts := by
      ext field
      rw [mem_conflicts_iff_departs hpages]
      apply and_congr_right
      intro hidentity
      refine ⟨fun h => h.elim id ?_, Or.inl⟩
      rintro ⟨default, hdefault, hdeparts⟩
      exact hdefaults field hidentity default hdefault hdeparts
    refine Verdicts.ext ?_ hconflicts ?_ ?_ (missingTrustFields_mergePages hpages)
      (reasonCodes_mergePages hpages) ?_
    · rw [eq_iff_iff, conflictNoted_iff hpages, hconflicts]
      exact ⟨fun ⟨f, hf⟩ => ⟨f, hf.1, hf.2⟩, fun ⟨f, hf, hconflict⟩ => ⟨f, hf, hconflict⟩⟩
    · exact propext (quality_mergePages hupper hpages)
    · ext status
      exact and_congr_right fun hstatus => reconciliation_mergePages hupper hpages hstatus
    · ext id
      refine ⟨exists_missingSecurities, ?_⟩
      rintro ⟨page, hpage, hid⟩
      exact hsecurities page hpage id hid

theorem warranted_perm {pages' : List MergedPage} (h : pages'.Perm pages) :
    warranted py pages' = warranted py pages := by
  refine Verdicts.ext ?_ ?_ ?_ ?_ ?_ ?_ ?_
  · simp only [warranted, conflicting_perm h]
  · simp only [warranted, conflicting_perm h]
  · simp only [warranted, h.mem_iff]
  · simp only [warranted, ReconcilesTo, h.mem_iff]
  · simp only [warranted, h.mem_iff]
  · have hsame : sortedSet (pages'.flatMap statedReasons) = sortedSet (pages.flatMap statedReasons) :=
      sortedSet_eq_of_mem fun text => (h.flatMap_right statedReasons).mem_iff
    simp only [warranted, hsame]
  · simp only [warranted, h.mem_iff]

/-- The description holds in every order exactly if each order yields what is warranted. -/
theorem describesAll_iff_forall : DescribesAll py pages ↔
    ∀ pages', pages'.Perm pages → verdicts py pages' = warranted py pages' := by
  constructor
  · rintro ⟨hself, hperm⟩ pages' h
    rw [hperm pages' h, hself, warranted_perm h]
  · intro h
    refine ⟨h pages (List.Perm.refl pages), fun pages' hperm => ?_⟩
    rw [h pages' hperm, h pages (List.Perm.refl pages), warranted_perm hperm]

theorem not_unsettled_iff {field default : String} : ¬Unsettled py field default pages ↔
    ∀ pages', pages'.Perm pages → Departs field default pages' → Conflicting py field pages' := by
  constructor
  · rintro hnot pages' hperm ⟨⟨page, hhead, hnone⟩, other, hother, v, hv, hne⟩
    by_contra hconflict
    rw [conflicting_perm hperm] at hconflict
    exact hnot ⟨⟨page, hperm.subset (List.mem_of_mem_head? hhead), hnone⟩,
      ⟨other, hperm.subset hother, v, hv, hne⟩, hconflict⟩
  · rintro h ⟨⟨page, hpage, hnone⟩, ⟨other, hother, v, hv, hne⟩, hconflict⟩
    obtain ⟨before, after, rfl⟩ := List.append_of_mem hpage
    have hperm : (page :: (before ++ after)).Perm (before ++ page :: after) :=
      List.perm_middle.symm
    have hdeparts : Departs field default (page :: (before ++ after)) :=
      ⟨⟨page, rfl, hnone⟩, other, hperm.symm.subset hother, v, hv, hne⟩
    exact hconflict ((conflicting_perm hperm).mp (h _ hperm hdeparts))

theorem securities_iff : (∀ p ∈ pages, ∀ q ∈ pages, missingSecurities p.payload ≠ [] →
      missingSecurities q.payload ≠ [] →
        ∀ id ∈ missingSecurities p.payload, id ∈ missingSecurities q.payload) ↔
    ∀ pages', pages'.Perm pages → ∀ page ∈ pages', ∀ id ∈ missingSecurities page.payload,
      id ∈ missingSecurities (mergePages py [] 0 pages') := by
  constructor
  · intro h pages' hperm page hpage id hid
    have hne : missingSecurities page.payload ≠ [] := List.ne_nil_of_mem hid
    rcases @missingSecurities_mergePages py 0 pages' with
      ⟨hall, -⟩ | ⟨last, hlast, hlastNe, heq⟩
    · exact absurd (hall page hpage) hne
    · rw [heq]
      exact h page (hperm.subset hpage) last (hperm.subset hlast) hne hlastNe id hid
  · intro h p hp q hq _ hne id hid
    obtain ⟨before, after, rfl⟩ := List.append_of_mem hq
    have hperm : (before ++ after ++ [q]).Perm (before ++ q :: after) := by
      rw [List.append_assoc]
      have hlast : (after ++ [q]).Perm ([q] ++ after) := List.perm_append_comm
      exact hlast.append_left before
    have hlisted := h _ hperm p (hperm.symm.subset hp) id hid
    rwa [missingSecurities_concat, if_neg hne] at hlisted

/-- Merged evidence describes all pages, in every order, if and only if the pages are settled. -/
theorem describesAll_iff (hupper : py.Uppercases) (hpages : pages ≠ []) :
    DescribesAll py pages ↔ Settled py pages := by
  have hnonempty : ∀ pages', pages'.Perm pages → pages' ≠ [] := by
    intro pages' hperm hempty
    rw [hempty] at hperm
    exact hpages hperm.nil_eq.symm
  rw [describesAll_iff_forall]
  constructor
  · intro h
    have hall := fun pages' hperm => (verdicts_eq_iff hupper (hnonempty pages' hperm)).mp (h pages' hperm)
    refine ⟨not_unsettled_iff.mpr fun pages' hperm => ?_, not_unsettled_iff.mpr fun pages' hperm => ?_,
      securities_iff.mpr fun pages' hperm => (hall pages' hperm).2⟩
    · exact (hall pages' hperm).1 "product_name" (by decide) _ rfl
    · exact (hall pages' hperm).1 "product_version" (by decide) _ rfl
  · rintro ⟨hname, hversion, hsecurities⟩ pages' hperm
    rw [verdicts_eq_iff hupper (hnonempty pages' hperm)]
    refine ⟨fun field _ default hdefault => ?_, securities_iff.mp hsecurities pages' hperm⟩
    unfold defaultOf at hdefault
    split at hdefault
    · rename_i hfield
      cases hdefault
      rw [hfield]
      exact not_unsettled_iff.mp hname pages' hperm
    · split at hdefault
      · rename_i hfield
        cases hdefault
        rw [hfield]
        exact not_unsettled_iff.mp hversion pages' hperm
      · cases hdefault

end Result

section Sample

/-- A platform that raises ASCII letters. -/
def asciiPlatform : Platform := ⟨String.map Char.toUpper, fun _ => none, fun _ => .nan⟩

theorem toUpper_toUpper (c : Char) : c.toUpper.toUpper = c.toUpper := by
  by_cases h : 'a'.val ≤ c.val ∧ c.val ≤ 'z'.val
  · have hleast : 97 ≤ c.val.toNat := h.1
    have hmost : c.val.toNat ≤ 122 := h.2
    have hraised : c.toUpper.val.toNat = c.val.toNat - 32 := by
      have hshifted : c.toUpper = _ := dif_pos h
      rw [hshifted]
      show (c.val + ('A'.val - 'a'.val)).toNat = _
      rw [UInt32.toNat_add]
      show (c.val.toNat + 4294967264) % 4294967296 = _
      omega
    have hnot : ¬('a'.val ≤ c.toUpper.val ∧ c.toUpper.val ≤ 'z'.val) := by
      rintro ⟨hlow, -⟩
      have hlow' : 97 ≤ c.toUpper.val.toNat := hlow
      omega
    exact dif_neg hnot
  · have hsame : c.toUpper = c := dif_neg h
    rw [hsame, hsame]

theorem asciiPlatform_uppercases : asciiPlatform.Uppercases where
  ascii _ _ := rfl
  idempotent text := by
    show (text.map Char.toUpper).map Char.toUpper = text.map Char.toUpper
    rw [String.map_map]
    congr 1
    funext c
    exact toUpper_toUpper c

/-- A page with a product name, a version and one missing security. -/
def namedPage (quality security : String) : MergedPage where
  payload := [("product_name", .str "Ledger"), ("product_version", .str "v2"),
    ("data_quality_status", .str quality), ("missing_instrument_security_ids", .arr [.str security])]
  returnedCount := 1
  sourceTotal := ⟨2, false⟩
  wellFormed := rfl

theorem describesAll_namedPages :
    DescribesAll asciiPlatform [namedPage "complete" "A", namedPage "PARTIAL" "A"] := by
  have hstated : ∀ field ∈ ["product_name", "product_version"],
      ∀ page ∈ [namedPage "complete" "A", namedPage "PARTIAL" "A"], offered field page ≠ none := by
    decide +kernel
  rw [describesAll_iff asciiPlatform_uppercases (List.cons_ne_nil _ _)]
  refine ⟨?_, ?_, ?_⟩
  · rintro ⟨⟨page, hpage, hnone⟩, -⟩
    exact hstated "product_name" (by decide) page hpage hnone
  · rintro ⟨⟨page, hpage, hnone⟩, -⟩
    exact hstated "product_version" (by decide) page hpage hnone
  · decide +kernel

end Sample

end LotusReport.Transactions
