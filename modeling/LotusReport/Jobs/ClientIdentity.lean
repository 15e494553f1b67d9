import LotusReport.Encoding.Fields
import LotusReport.Jobs.Create

/-!
# The client identity of a request

Two requests ask for the same when they differ only in the order and the
repetition of the items of a declared set, in the order of their output
formats, in the order of their fields, and in options that the server derives.
Such requests have one identity, and so has the stored copy of a request whose
declared sets are sets of texts.
-/

namespace LotusReport.Jobs

open Encoding Fallible Json

/-- What the client identity is taken of. -/
structure ClientRequest where
  reportType : String
  parts : RequestParts
  tenantId : String
  region : String

/-- The canonical text of the client identity. -/
def ClientRequest.identityText (py : Runtime) (q : ClientRequest) : String :=
  canonicalJson (clientIdentity py q.reportType q.parts q.tenantId q.region)

/-- What a call asks for. -/
def CreateCall.client (c : CreateCall) (sub : Submission) : ClientRequest :=
  ⟨c.reportType, sub.parts, c.callerContext.tenantId, c.callerContext.region⟩

/-- What a stored request asks for. -/
def RequestRow.client (r : RequestRow) : ClientRequest := ⟨r.reportType, r.parts, r.tenantId, r.region⟩

section Intent

/-- Values of a declared set: lists with the same items. -/
def SameSet : Json → Json → Prop
  | .arr as, .arr bs => ∀ x, x ∈ as ↔ x ∈ bs
  | .arr _, _ => False
  | _, .arr _ => False
  | v, w => canonical v = canonical w

/-- Dictionaries that agree up to the order of fields and the declared sets. -/
structure SameDict (setKeys : List String) (xs ys : Fields) : Prop where
  left : Distinct xs
  right : Distinct ys
  same : ∀ name, Option.Rel
    (fun v w => if name ∈ setKeys then SameSet v w else canonical v = canonical w)
    (lookup xs name) (lookup ys name)

/-- Requests with the same client intent. -/
structure SameIntent (q q' : ClientRequest) : Prop where
  reportType : q.reportType = q'.reportType
  tenantId : q.tenantId = q'.tenantId
  region : q.region = q'.region
  asOfDate : q.parts.asOfDate = q'.parts.asOfDate
  reportingCurrency : q.parts.reportingCurrency = q'.parts.reportingCurrency
  outputFormats : q.parts.outputFormats.Perm q'.parts.outputFormats
  portfolioScope : SameDict ["portfolio_ids"] q.parts.portfolioScope q'.parts.portfolioScope
  options : SameDict ["sections", "allocation_dimensions"] (stripServerDerived q.parts.options)
    (stripServerDerived q'.parts.options)

variable (py : Runtime) {setKeys : List String} {xs ys : Fields}

theorem setNormalized_eq_map (setKeys : List String) (xs : Fields) :
    setNormalized py setKeys xs =
      xs.map fun f => (f.1, if f.1 ∈ setKeys then setNormalizedValue py f.2 else f.2) := by
  unfold setNormalized
  refine List.map_congr_left fun f _ => ?_
  split <;> rfl

theorem SameSet.normalized {v w : Json} (h : SameSet v w) :
    canonical (setNormalizedValue py v) = canonical (setNormalizedValue py w) := by
  cases v with
  | arr as =>
      cases w with
      | arr bs =>
          have hmem : ∀ x, x ∈ as.map (pyStr py) ↔ x ∈ bs.map (pyStr py) := by
            intro x
            simp only [List.mem_map]
            exact ⟨fun ⟨j, hj, hx⟩ => ⟨j, (h j).mp hj, hx⟩, fun ⟨j, hj, hx⟩ => ⟨j, (h j).mpr hj, hx⟩⟩
          simp only [setNormalizedValue]
          rw [sortedSet_eq_of_mem hmem]
      | _ => exact h.elim
  | _ =>
      cases w with
      | arr bs => exact h.elim
      | _ => exact h

theorem distinct_map {g : String → Json → Json} (h : Distinct xs) :
    Distinct (xs.map fun f => (f.1, g f.1 f.2)) := by
  unfold Distinct
  rw [List.map_map]
  exact h

/-- Agreeing dictionaries have the same normalized canonical form. -/
theorem SameDict.normalized (h : SameDict setKeys xs ys) :
    canonical (.obj (setNormalized py setKeys xs)) =
      canonical (.obj (setNormalized py setKeys ys)) := by
  have hmap : ∀ zs : Fields, canonicalFields (setNormalized py setKeys zs) =
      zs.map fun f => (f.1, canonical (if f.1 ∈ setKeys then setNormalizedValue py f.2 else f.2)) := by
    intro zs
    rw [setNormalized_eq_map, canonicalFields_eq_map, List.map_map]
    rfl
  simp only [canonical, Json.obj.injEq]
  rw [hmap xs, hmap ys]
  refine sortFields_eq_of_lookup
    (distinct_map (g := fun k v => canonical (if k ∈ setKeys then setNormalizedValue py v else v))
      h.left)
    (distinct_map (g := fun k v => canonical (if k ∈ setKeys then setNormalizedValue py v else v))
      h.right) fun name => ?_
  rw [lookup_map fun k v => canonical (if k ∈ setKeys then setNormalizedValue py v else v),
    lookup_map fun k v => canonical (if k ∈ setKeys then setNormalizedValue py v else v)]
  have hsame := h.same name
  cases hx : lookup xs name with
  | none =>
      rw [hx] at hsame
      cases hy : lookup ys name with
      | none => rfl
      | some w =>
          rw [hy] at hsame
          cases hsame
  | some v =>
      rw [hx] at hsame
      cases hy : lookup ys name with
      | none =>
          rw [hy] at hsame
          cases hsame
      | some w =>
          rw [hy] at hsame
          cases hsame with
          | some hvw =>
              simp only [Option.map_some, Option.some.injEq]
              split at hvw
              · rename_i hset
                simpa only [if_pos hset] using hvw.normalized py
              · rename_i hset
                simpa only [if_neg hset] using hvw

theorem SameIntent.identityText {q q' : ClientRequest} (h : SameIntent q q') :
    q.identityText py = q'.identityText py := by
  unfold ClientRequest.identityText canonicalJson clientIdentity
  congr 1
  have hscope := h.portfolioScope.normalized py
  have hoptions := h.options.normalized py
  simp only [canonical, canonicalFields, Json.obj.injEq] at hscope hoptions ⊢
  rw [h.reportType, h.tenantId, h.region, h.asOfDate, h.reportingCurrency,
    sortedTexts_eq_of_perm h.outputFormats, hscope, hoptions]

end Intent

section Stored

variable (py : Runtime) {setKeys : List String} {xs : Fields}

/-- The declared sets among the fields are sets of texts. -/
def TextSets (setKeys : List String) (fields : Fields) : Prop :=
  ∀ f ∈ fields, f.1 ∈ setKeys → ∀ items, f.2 = .arr items → ∀ j ∈ items, ∃ text, j = .str text

/-- The declared sets of a request are sets of texts. -/
structure ClientRequest.TextSets (q : ClientRequest) : Prop where
  portfolioScope : Jobs.TextSets ["portfolio_ids"] q.parts.portfolioScope
  options : Jobs.TextSets ["sections", "allocation_dimensions"] q.parts.options

theorem canonical_of_texts {items : List Json} (h : ∀ j ∈ items, ∃ text, j = .str text) :
    canonical (.arr items) = .arr items := by
  simp only [canonical, canonicalItems_eq_map, Json.arr.injEq]
  refine (List.map_congr_left fun j hj => ?_).trans (List.map_id items)
  obtain ⟨text, rfl⟩ := h j hj
  rfl

theorem canonical_setNormalizedValue {v : Json}
    (h : ∀ items, v = .arr items → ∀ j ∈ items, ∃ text, j = .str text) :
    canonical (setNormalizedValue py (canonical v)) = canonical (setNormalizedValue py v) := by
  cases v with
  | arr items => rw [canonical_of_texts (h items rfl)]
  | obj fields =>
      have hobj : setNormalizedValue py (canonical (.obj fields)) = canonical (.obj fields) := rfl
      rw [hobj, canonical_canonical]
      rfl
  | _ => rfl

theorem setNormalized_sortFields (setKeys : List String) (xs : Fields) :
    setNormalized py setKeys (sortFields xs) = sortFields (setNormalized py setKeys xs) := by
  rw [setNormalized_eq_map, setNormalized_eq_map]
  exact (sortFields_map (g := fun f =>
    (f.1, if f.1 ∈ setKeys then setNormalizedValue py f.2 else f.2)) (fun _ => rfl) xs).symm

/-- The stored copy of a dictionary has the same normalized canonical form. -/
theorem canonical_setNormalized_stored (h : TextSets setKeys xs) :
    canonical (.obj (setNormalized py setKeys (storedObject xs))) =
      canonical (.obj (setNormalized py setKeys xs)) := by
  have hfields : canonicalFields (setNormalized py setKeys (canonicalFields xs)) =
      canonicalFields (setNormalized py setKeys xs) := by
    simp only [setNormalized_eq_map, canonicalFields_eq_map, List.map_map]
    refine List.map_congr_left fun f hf => ?_
    simp only [Function.comp, Prod.mk.injEq, true_and]
    split
    · rename_i hset
      exact canonical_setNormalizedValue py (h f hf hset)
    · exact canonical_canonical f.2
  simp only [canonical, Json.obj.injEq, storedObject]
  rw [setNormalized_sortFields, canonicalFields_sortFields, sortFields_sortFields, hfields]

theorem stripServerDerived_stored (options : Fields) :
    stripServerDerived (storedObject options) = storedObject (stripServerDerived options) := by
  unfold stripServerDerived storedObject
  rw [sortFields_filter, canonicalFields_eq_map, canonicalFields_eq_map, List.filter_map]
  rfl

theorem stripServerDerived_assign (options : Fields) (value : Json) :
    stripServerDerived (assign options bindingOption value) = stripServerDerived options :=
  filter_assign fun _ => by simp [serverDerivedRequestOptionKeys]

theorem bindAdmission_eq_ok {options bound : Fields}
    {admission : Option AcceptedTwrAdmission} {requestId jobId correlationId traceId : String}
    (h : bindAdmission options admission requestId jobId correlationId traceId = .ok bound) :
    lookup options bindingOption = none ∧ (admission = none ∧ bound = options ∨
      ∃ a b, admission = some a ∧
        TwrJobBinding.build a requestId jobId correlationId traceId = .ok b ∧
        bound = assign options bindingOption b.dump) := by
  unfold bindAdmission at h
  split at h
  · cases h
  · rename_i hnone
    refine ⟨by simpa using hnone, ?_⟩
    split at h
    · cases h
      exact Or.inl ⟨rfl, rfl⟩
    · rename_i a
      split at h
      · rename_i b hbuilt
        cases h
        exact Or.inr ⟨a, b, rfl, hbuilt, rfl⟩
      · cases h

/-- The stored copy of a request whose declared sets are sets of texts has its identity. -/
theorem identityText_requestRow {c : CreateCall} {sub : Submission}
    {options : Fields}
    (hbind : bindAdmission sub.parts.options c.twrAdmission c.requestId c.jobId
      c.callerContext.correlationId c.callerContext.traceId = .ok options)
    (htext : (c.client sub).TextSets) :
    (c.requestRow sub options).client.identityText py = (c.client sub).identityText py := by
  have hstrip : stripServerDerived (storedObject options) =
      storedObject (stripServerDerived sub.parts.options) := by
    rw [stripServerDerived_stored]
    rcases (bindAdmission_eq_ok hbind).2 with ⟨-, rfl⟩ | ⟨a, b, -, -, rfl⟩
    · rfl
    · rw [stripServerDerived_assign]
  have hscope := canonical_setNormalized_stored py htext.portfolioScope
  have hoptions := canonical_setNormalized_stored py
    (fun f hf => htext.options f (List.mem_of_mem_filter hf) :
      TextSets ["sections", "allocation_dimensions"] (stripServerDerived sub.parts.options))
  unfold ClientRequest.identityText canonicalJson clientIdentity
  congr 1
  simp only [canonical, canonicalFields, Json.obj.injEq, CreateCall.client, RequestRow.client,
    RequestRow.parts, CreateCall.requestRow] at hscope hoptions ⊢
  rw [hstrip, sortedTexts_sortedTexts, hscope, hoptions]

end Stored

section Admission

variable {co : Coercions} {a : AcceptedTwrAdmission} {b : TwrJobBinding}
  {fields : Fields} {constraint : String → Bool}

theorem lookup_storedObject (fields : Fields) (name : String) :
    lookup (storedObject fields) name = (lookup fields name).map canonical := by
  unfold storedObject
  rw [lookup_sortFields, lookup_canonicalFields]

theorem forbidExtra_storedObject (names : List String) (fields : Fields) :
    forbidExtra names (storedObject fields) = forbidExtra names fields := by
  have hperm : (storedObject fields).Perm (canonicalFields fields) := List.perm_insertionSort _ _
  unfold forbidExtra
  rw [hperm.all_eq, canonicalFields_eq_map, List.all_map]
  rfl

theorem strippedText_self {text stripped : String}
    (h : strippedText constraint text = .ok stripped) :
    strippedText constraint stripped = .ok stripped := by
  unfold strippedText at h ⊢
  dsimp only at h ⊢
  split at h
  · rename_i hmeets
    cases h
    rw [String.toList_ofList, dropEdges_eq_self (hasEdges_dropEdges _ _), if_pos hmeets]
  · cases h

theorem exists_of_required {α : Type} {validate : Json → Except Invalid α} {name : String}
    {found : α} (h : required fields name validate = .ok found) : ∃ value, validate value = .ok found := by
  unfold required at h
  split at h
  · exact ⟨_, h⟩
  · cases h

theorem strippedText_of_required {name text : String}
    (h : required fields name (strippedWith constraint) = .ok text) :
    strippedText constraint text = .ok text := by
  obtain ⟨value, hvalue⟩ := exists_of_required h
  cases value with
  | str stored => exact strippedText_self hvalue
  | _ => cases hvalue

theorem textWith_of_required {name text : String}
    (h : required fields name (textWith constraint) = .ok text) :
    textWith constraint (.str text) = .ok text := by
  obtain ⟨value, hvalue⟩ := exists_of_required h
  cases value with
  | str stored =>
      have hsame : stored = text := by
        dsimp only [textWith] at hvalue
        split at hvalue
        · cases hvalue
          rfl
        · cases hvalue
      rwa [hsame] at hvalue
  | _ => cases hvalue

theorem strippedText_of_nullable {name : String} {found : Option String}
    (h : nullable fields name (strippedWith constraint) = .ok found) :
    ∀ text ∈ found, strippedText constraint text = .ok text := by
  intro text htext
  unfold nullable at h
  split at h
  · cases h
    cases htext
  · cases h
    cases htext
  · rename_i value _ _
    obtain ⟨stripped, hstripped, rfl⟩ := map_eq_ok.mp h
    cases htext
    cases value with
    | str stored => exact strippedText_self hstripped
    | _ => cases hstripped

/-- The admission is one that validation has made, as every instance of its class is. -/
def AcceptedTwrAdmission.Validated (co : Coercions) (a : AcceptedTwrAdmission) : Prop :=
  ∃ j, validateStoredAdmission co j = .ok a

theorem converted_eq_ok {α : Type} {value : Option α} {found : α} :
    converted value = .ok found ↔ value = some found := by
  cases value <;> simp [converted]

theorem required_stored {α : Type} {validate : Json → Except Invalid α} {name text : String}
    {found : α} (h : lookup fields name = some (.str text)) (hfound : validate (.str text) = .ok found) :
    required (storedObject fields) name validate = .ok found := by
  rw [required, lookup_storedObject, h]
  exact hfound

theorem stripped_stored {name text : String} (h : lookup fields name = some (.str text))
    (htext : strippedText constraint text = .ok text) :
    required (storedObject fields) name (strippedWith constraint) = .ok text :=
  required_stored h htext

theorem literal_stored {name text : String} (h : lookup fields name = some (.str text)) :
    literal (storedObject fields) name text = .ok () := by
  rw [literal, lookup_storedObject, h]
  exact if_pos rfl

theorem nullable_stored {name : String} {found : Option String}
    (h : lookup fields name = some (ofText? found))
    (hfound : ∀ text ∈ found, strippedText constraint text = .ok text) :
    nullable (storedObject fields) name (strippedWith constraint) = .ok found := by
  rw [nullable, lookup_storedObject, h]
  cases found with
  | none => rfl
  | some text =>
      change (strippedText constraint text).map some = .ok (some text)
      rw [hfound text rfl]
      rfl

/-- The texts of a principal name it, and no other texts do. -/
theorem principalOf_eq_some {kind : String} {application actor : Option String}
    {principal : TwrPrincipal} : principalOf kind application actor = some principal ↔
      kind = principal.kind ∧ application = principal.application ∧ actor = principal.actor := by
  constructor
  · intro h
    unfold principalOf at h
    split at h
    · cases h
      exact ⟨rfl, rfl, rfl⟩
    · cases h
      exact ⟨rfl, rfl, rfl⟩
    · cases h
  · rintro ⟨rfl, rfl, rfl⟩
    cases principal <;> rfl

open AcceptedTwrAdmission (securityIdentity) in
theorem validateStoredAdmission_dump {j : Json} (hco : co.Rereads)
    (h : validateStoredAdmission co j = .ok a) :
    validateStoredAdmission co (canonical a.dump) = .ok a := by
  unfold validateStoredAdmission at h
  simp only [bind_eq_ok] at h
  obtain ⟨fields, -, _, -, _, -, _, -, _, -, _, -, _, -, _, -, reference, hreference, issuer, hissuer,
    trust, htrust, kind, hkind, subject, hsubject, application, happlication, actor, hactor, tenant,
    htenant, policy, hpolicy, scope, hscope, selectors, hselectors, revision, hrevision, admitted,
    hadmitted, principal, hprincipal, h⟩ := h
  cases h
  obtain ⟨value, hvalue⟩ := exists_of_required hadmitted
  have hreread := hco value admitted (converted_eq_ok.mp hvalue)
  obtain ⟨rfl, rfl, rfl⟩ := principalOf_eq_some.mp (converted_eq_ok.mp hprincipal)
  refine bind_eq_ok.mpr ⟨_, rfl, ?_⟩
  refine bind_eq_ok.mpr ⟨(), (forbidExtra_storedObject _ _).trans ?_, ?_⟩
  · simp [securityIdentity, forbidExtra]
  refine bind_eq_ok.mpr ⟨_, literal_stored (by simp [securityIdentity]), ?_⟩
  refine bind_eq_ok.mpr ⟨_, literal_stored (by simp [securityIdentity]), ?_⟩
  refine bind_eq_ok.mpr ⟨_, literal_stored (by simp [securityIdentity]), ?_⟩
  refine bind_eq_ok.mpr ⟨_, literal_stored (by simp [securityIdentity]), ?_⟩
  refine bind_eq_ok.mpr ⟨_, literal_stored (by simp [securityIdentity]), ?_⟩
  refine bind_eq_ok.mpr ⟨_, literal_stored (by simp [securityIdentity]), ?_⟩
  refine bind_eq_ok.mpr ⟨_, stripped_stored (by simp [securityIdentity])
    (strippedText_of_required hreference), ?_⟩
  refine bind_eq_ok.mpr ⟨_, stripped_stored (by simp [securityIdentity])
    (strippedText_of_required hissuer), ?_⟩
  refine bind_eq_ok.mpr ⟨_, stripped_stored (by simp [securityIdentity])
    (strippedText_of_required htrust), ?_⟩
  refine bind_eq_ok.mpr ⟨_, required_stored (by simp [securityIdentity])
    (textWith_of_required hkind), ?_⟩
  refine bind_eq_ok.mpr ⟨_, stripped_stored (by simp [securityIdentity])
    (strippedText_of_required hsubject), ?_⟩
  refine bind_eq_ok.mpr ⟨_, nullable_stored (by simp [securityIdentity])
    (strippedText_of_nullable happlication), ?_⟩
  refine bind_eq_ok.mpr ⟨_, nullable_stored (by simp [securityIdentity])
    (strippedText_of_nullable hactor), ?_⟩
  refine bind_eq_ok.mpr ⟨_, stripped_stored (by simp [securityIdentity])
    (strippedText_of_required htenant), ?_⟩
  refine bind_eq_ok.mpr ⟨_, stripped_stored (by simp [securityIdentity])
    (strippedText_of_required hpolicy), ?_⟩
  refine bind_eq_ok.mpr ⟨_, stripped_stored (by simp [securityIdentity])
    (strippedText_of_required hscope), ?_⟩
  refine bind_eq_ok.mpr ⟨_, stripped_stored (by simp [securityIdentity])
    (strippedText_of_required hselectors), ?_⟩
  refine bind_eq_ok.mpr ⟨_, nullable_stored (by simp [securityIdentity])
    (strippedText_of_nullable hrevision), ?_⟩
  refine bind_eq_ok.mpr ⟨_, required_stored (by simp [securityIdentity])
    (converted_eq_ok.mpr hreread), ?_⟩
  exact bind_eq_ok.mpr ⟨principal, hprincipal, rfl⟩

/-- A built binding is read back from its stored dump. -/
theorem validateStoredBinding_dump {j : Json} {requestId jobId correlationId traceId : String}
    (hco : co.Rereads) (h : validateStoredAdmission co j = .ok a)
    (hbuilt : TwrJobBinding.build a requestId jobId correlationId traceId = .ok b) :
    validateStoredBinding co (canonical b.dump) = .ok b := by
  simp only [TwrJobBinding.build, bind_eq_ok] at hbuilt
  obtain ⟨request, hrequest, job, hjob, correlation, hcorrelation, trace, htrace, hbuilt⟩ := hbuilt
  cases hbuilt
  refine bind_eq_ok.mpr ⟨_, rfl, ?_⟩
  refine bind_eq_ok.mpr ⟨(), (forbidExtra_storedObject _ _).trans ?_, ?_⟩
  · simp [forbidExtra]
  have hadmission : required (storedObject [("admission", a.dump), ("request_id", .str request),
      ("job_id", .str job), ("correlation_id", .str correlation), ("trace_id", .str trace)])
        "admission" (validateStoredAdmission co) = .ok a := by
    rw [required, lookup_storedObject]
    exact validateStoredAdmission_dump hco h
  refine bind_eq_ok.mpr ⟨a, hadmission, ?_⟩
  refine bind_eq_ok.mpr ⟨_, stripped_stored (by simp) (strippedText_self hrequest), ?_⟩
  refine bind_eq_ok.mpr ⟨_, stripped_stored (by simp) (strippedText_self hjob), ?_⟩
  refine bind_eq_ok.mpr ⟨_, stripped_stored (by simp) (strippedText_self hcorrelation), ?_⟩
  exact bind_eq_ok.mpr ⟨_, stripped_stored (by simp) (strippedText_self htrace), rfl⟩

/-- A text without white space at its ends is stripped to itself. -/
theorem eq_of_strippedText {text stripped : String} (hedges : HasEdges patternSpace text.toList)
    (h : strippedText constraint text = .ok stripped) : stripped = text := by
  unfold strippedText at h
  rw [dropEdges_eq_self hedges, String.ofList_toList] at h
  dsimp only at h
  split at h
  · cases h
    rfl
  · cases h

/-- What the checks in front of the transaction have established. -/
structure Submitted (d : Deployment) (c : CreateCall) (sub : Submission) : Prop where
  key : c.normalizedKey = some sub.key
  parts : requestParts d.toRuntime c.request = .ok sub.parts
  admission : requireInternalAdmission d.toRuntime c.request sub.parts.options
    c.callerContext.tenantId c.twrAdmission = .ok ()
  hash : sub.requestHash = d.sha256 ((c.client sub).identityText d.toRuntime)

theorem submission_eq_ok {d : Deployment} {c : CreateCall} {sub : Submission}
    (h : submission d c = .ok sub) : Submitted d c sub := by
  unfold submission at h
  split at h
  · cases h
  · rename_i key hkey
    obtain ⟨parts, hparts, hrest⟩ := bind_eq_ok.mp h
    obtain ⟨⟨⟩, hadmission, hadmitted⟩ := bind_eq_ok.mp hrest
    obtain ⟨template, -, htemplate⟩ := bind_eq_ok.mp hadmitted
    obtain ⟨contract, -, hlast⟩ := bind_eq_ok.mp htemplate
    cases hlast
    exact ⟨hkey, hparts, hadmission, rfl⟩

theorem Submitted.tenantId {d : Deployment} {c : CreateCall} {sub : Submission}
    (h : Submitted d c sub) {a : AcceptedTwrAdmission} (ha : c.twrAdmission = some a) :
    a.tenantId = c.callerContext.tenantId := by
  have hadmission := h.admission
  rw [ha] at hadmission
  unfold requireInternalAdmission at hadmission
  split at hadmission
  · cases hadmission
  · cases hrequest : c.request with
    | composite r =>
        rw [hrequest] at hadmission
        cases hdigest : selectorSetDigest d.toRuntime r with
        | none => simp [hdigest] at hadmission
        | some digest =>
            simp only [hdigest] at hadmission
            split at hadmission
            · rename_i hsame
              exact hsame.1
            · cases hadmission
    | _ => simp [hrequest] at hadmission

/-- The ids that the call binds have no white space at their ends. -/
def CreateCall.PlainIds (c : CreateCall) : Prop :=
  ∀ id ∈ [c.requestId, c.jobId, c.callerContext.correlationId, c.callerContext.traceId],
    HasEdges patternSpace id.toList

theorem requireSameAdmission_requestRow {d : Deployment} {c : CreateCall} {sub : Submission}
    {options : Fields} {job : JobRow} {admission : Option AcceptedTwrAdmission}
    (hco : d.coercions.Rereads) (hsub : Submitted d c sub)
    (hbind : bindAdmission sub.parts.options c.twrAdmission c.requestId c.jobId
      c.callerContext.correlationId c.callerContext.traceId = .ok options)
    (hjob : job.reportJobId = c.jobId)
    (hvalid : ∀ a ∈ c.twrAdmission, a.Validated d.coercions)
    (hplain : c.twrAdmission.isSome = true → c.PlainIds)
    (hsame : c.twrAdmission.map AcceptedTwrAdmission.securityIdentity =
      admission.map AcceptedTwrAdmission.securityIdentity) :
    requireSameAdmission d.coercions (c.requestRow sub options) job admission = .ok () := by
  obtain ⟨hfree, hbound⟩ := bindAdmission_eq_ok hbind
  unfold requireSameAdmission
  rcases hbound with ⟨hnone, rfl⟩ | ⟨a, b, hsome, hbuilt, rfl⟩
  · rw [hnone] at hsame
    have hadmission : admission = none := by
      cases admission with
      | none => rfl
      | some a => cases hsame
    simp [hadmission, CreateCall.requestRow, lookup_storedObject, hfree]
  · rw [hsome] at hsame
    cases admission with
    | none => cases hsame
    | some again =>
        simp only [Option.map_some, Option.some.injEq] at hsame
        obtain ⟨j, hj⟩ := hvalid a hsome
        have hread := validateStoredBinding_dump hco hj hbuilt
        have hids := hplain (hsome ▸ rfl)
        simp only [CreateCall.PlainIds, List.forall_mem_cons] at hids
        obtain ⟨hrequestEdges, hjobEdges, hcorrelationEdges, htraceEdges, -⟩ := hids
        simp only [TwrJobBinding.build, bind_eq_ok] at hbuilt
        obtain ⟨request, hrequest, jobId, hjobId, correlation, hcorrelation, trace, htrace, hbuilt⟩ :=
          hbuilt
        cases hbuilt
        cases eq_of_strippedText hrequestEdges hrequest
        cases eq_of_strippedText hjobEdges hjobId
        cases eq_of_strippedText hcorrelationEdges hcorrelation
        cases eq_of_strippedText htraceEdges htrace
        have hbinding : bindingForJob d.coercions (c.requestRow sub (assign sub.parts.options
            bindingOption (TwrJobBinding.dump ⟨a, c.requestId, c.jobId,
              c.callerContext.correlationId, c.callerContext.traceId⟩))) job =
            .ok ⟨a, c.requestId, c.jobId, c.callerContext.correlationId,
              c.callerContext.traceId⟩ := by
          unfold bindingForJob storedBinding
          simp [CreateCall.requestRow, lookup_storedObject, lookup_assign_self, hread, hjob,
            hsub.tenantId hsome, Except.mapError]
        simp [hbinding, hsame, bind, Except.bind]

end Admission

end LotusReport.Jobs
