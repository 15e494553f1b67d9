import LotusReport.Composite.Capture

/-!
# Every TWR read is made under bound authority

A capture asks the provider for authority for each selection it sends. The
read carries the provider's invocation unchanged, and an answer that is not
bound to the job, the selection and the payload ends the capture.
-/

namespace LotusReport.Composite

open Encoding Jobs StateMachine

/-- The calls of a capture with their answers, in order. -/
abbrev CaptureTrace := List ((op : CaptureCall) × op.Answer)

namespace Capture

variable {α β : Type} {P : CaptureTrace → CaptureCall → Prop}
  {R : (op : CaptureCall) → op.Answer → Prop} {Q : CaptureTrace → α → Prop}
  {S : CaptureTrace → β → Prop} {before : CaptureTrace} {m : Capture α} {k : α → Capture β}

/-- The computation is guarded whatever evidence it starts with. -/
def Guarded (P : CaptureTrace → CaptureCall → Prop) (R : (op : CaptureCall) → op.Answer → Prop)
    (Q : CaptureTrace → α → Prop) (before : CaptureTrace) (m : Capture α) : Prop :=
  ∀ s, Program.Guarded P R Program.Failed (Program.Returned fun trace result => Q trace result.1)
    before (m s)

/-- The computation raises without a call. -/
def Raises (m : Capture α) : Prop := ∀ s, ∃ failure, m s = .done (.error failure)

theorem guarded_pure {a : α} (h : Q before a) : Guarded P R Q before (pure a) := fun _ => h

theorem guarded_lift {x : Except CaptureError α} (h : ∀ a, x = .ok a → Q before a) :
    Guarded P R Q before (lift x) := by
  intro s
  cases x with
  | error e => trivial
  | ok a => exact h a rfl

theorem guarded_lift_true (x : Except CaptureError α) :
    Guarded P R (fun _ _ => True) before (lift x) := guarded_lift fun _ _ => trivial

@[simp] theorem lift_ok_bind (a : α) : (lift (.ok a) >>= k) = k a := rfl

theorem guarded_raise (e : CaptureError) : Guarded P R Q before (raise e) := fun _ => trivial

theorem guarded_bind (h : Guarded P R Q before m)
    (hk : ∀ a after, Q (before ++ after) a → Guarded P R S (before ++ after) (k a)) :
    Guarded P R S before (m >>= k) := by
  intro s
  apply (h s).andThen
  intro result after hQ
  exact hk result.1 after hQ result.2

/-- A call whose answer, unless acceptable, makes the rest raise. -/
theorem guarded_perform_bind {op : CaptureCall} {k : op.Answer → Capture β} (hop : P before op)
    (hanswer : ∀ r, R op r ∨ Raises (k r))
    (hk : ∀ r, Guarded P R S (before ++ [⟨op, r⟩]) (k r)) :
    Guarded P R S before (perform op >>= k) := by
  intro s
  refine ⟨hop, fun r => ⟨?_, hk r s⟩⟩
  rcases hanswer r with hr | hraises
  · exact .inl hr
  · obtain ⟨failure, hfailure⟩ := hraises s
    exact .inr ⟨.error failure, hfailure, trivial⟩

theorem guarded_forEach {f : α → Capture β} {items : List α}
    (h : ∀ a ∈ items, ∀ after, Guarded P R (fun _ _ => True) (before ++ after) (f a)) :
    Guarded P R (fun _ _ => True) before (forEach f items) := by
  induction items generalizing before with
  | nil => exact guarded_pure trivial
  | cons a items ih =>
      have hfirst := h a List.mem_cons_self []
      rw [List.append_nil] at hfirst
      apply guarded_bind hfirst
      intro b after _
      apply guarded_bind
      · apply ih
        intro a' ha' after'
        rw [List.append_assoc]
        exact h a' (List.mem_cons_of_mem a ha') _
      · intro bs after' _
        exact guarded_pure trivial

theorem raises_lift {x : Except CaptureError α} {e : CaptureError} (h : x = .error e) :
    Raises (lift x) := by
  intro s
  exact ⟨(e, s), by rw [h]; rfl⟩

theorem Raises.bind (h : Raises m) : Raises (m >>= k) := by
  intro s
  obtain ⟨failure, hm⟩ := h s
  refine ⟨failure, ?_⟩
  show Program.andThen (m s) _ = _
  rw [hm]
  rfl

theorem Raises.guarded (h : Raises m) : Guarded P R Q before m := by
  intro s
  obtain ⟨failure, hm⟩ := h s
  rw [hm]
  trivial

theorem raises_lift_bind {x : Except CaptureError α}
    (hk : ∀ a, x = .ok a → Raises (k a)) : Raises (lift x >>= k) := by
  cases x with
  | error e => exact (raises_lift rfl).bind
  | ok a => exact hk a rfl

section Scripted

variable {α β : Type} (respond : (op : CaptureCall) → op.Answer) {s s' : CaptureState}
  {m : Capture α} {k : α → Capture β} {a : α} {trace : CaptureTrace}

theorem runWith_bind_ok (h : (m s).runWith respond = (trace, .ok (a, s'))) :
    ((m >>= k) s).runWith respond =
      (trace ++ ((k a s').runWith respond).1, ((k a s').runWith respond).2) :=
  Program.runWith_andThen_ok h

theorem runWith_bind_error {failure : CaptureError × CaptureState}
    (h : (m s).runWith respond = (trace, .error failure)) :
    ((m >>= k) s).runWith respond = (trace, .error failure) :=
  Program.runWith_andThen_error h

theorem runWith_perform_bind {op : CaptureCall} {k : op.Answer → Capture β} :
    ((perform op >>= k) s).runWith respond =
      (⟨op, respond op⟩ :: ((k (respond op) s).runWith respond).1,
        ((k (respond op) s).runWith respond).2) := rfl

end Scripted

end Capture

section Authority

variable (py : Runtime) (co : Coercions) (services : CaptureServices) (record : JobFile)

/-- The authority for a read is the one that the provider gave, in this capture, for the pinned
selection and its payload under the binding of the job. -/
structure BoundRead (request : CompositeReviewJobRequest) (before : CaptureTrace) (payload : Json)
    (admittedTenantId : String) (invocation : TwrInvocation) (binding : TwrJobBinding)
    (selection : CompositeReportSelection) : Prop where
  persisted : BindingOf co record binding
  selected : selection ∈ request.twrSelections
  sent : payload = selection.performanceRequest
  tenant : admittedTenantId = record.request.tenantId
  authorized : ∃ context answer,
    (⟨.authorizeAttempt binding selection.dump context, answer⟩ : (op : CaptureCall) × op.Answer) ∈
      before ∧ BoundAnswer py binding selection record.request.tenantId answer invocation
  /-- Whatever selector set has the admitted digest, the selection is one of it. -/
  admitted : ∀ admitted : List Json, (∀ j ∈ admitted, j.wellFormed = true) →
    binding.admission.selectorSetDigest = py.digest (.arr admitted) →
    ∃ j ∈ admitted, j.agrees selection.dump = true

/-- A TWR read is bound; other calls need no authority. -/
def ReadsBound (request : CompositeReviewJobRequest) (before : CaptureTrace) : CaptureCall → Prop
  | .getCompositeTwr payload admittedTenantId invocation => ∃ binding selection,
      BoundRead py co record request before payload admittedTenantId invocation binding selection
  | _ => True

/-- An answer to a request for authority is bound to the selection that was asked for. -/
def AuthorityBound (request : CompositeReviewJobRequest) : (op : CaptureCall) → op.Answer → Prop
  | .authorizeAttempt binding exactSelector _, answer => ∃ selection ∈ request.twrSelections,
      exactSelector = selection.dump ∧
        ∃ invocation, BoundAnswer py binding selection record.request.tenantId answer invocation
  | _, _ => True

/-- The job has a binding of its own, and its admission covers the request. -/
def Admitted (request : CompositeReviewJobRequest) : Prop :=
  ∃ binding, jobBinding co record = .ok binding ∧
    request.requireAdmission py record.request.tenantId (some binding.admission) = .ok ()

variable {py co services record} {request : CompositeReviewJobRequest} {before : CaptureTrace}

open Capture

/-- A call that is neither a TWR read nor a request for authority. -/
def NeedsNoAuthority : CaptureCall → Prop
  | .getCompositeTwr .. | .authorizeAttempt .. => False
  | _ => True

theorem guarded_perform_free {op : CaptureCall} (h : NeedsNoAuthority op) {β : Type}
    {S : CaptureTrace → β → Prop} {k : op.Answer → Capture β}
    (hk : ∀ r, Capture.Guarded (ReadsBound py co record request) (AuthorityBound py record request) S
      (before ++ [⟨op, r⟩]) (k r)) :
    Capture.Guarded (ReadsBound py co record request) (AuthorityBound py record request) S before
      (perform op >>= k) := by
  apply guarded_perform_bind _ _ hk
  · cases op <;> trivial
  · intro r
    cases op <;> first | exact .inl trivial | cases h

variable (py record) in
/-- The provider was asked for the selection under the binding, and its answer, which is bound, is
the invocation. -/
def AuthorizedBy (binding : TwrJobBinding) (selection : CompositeReportSelection)
    (trace : CaptureTrace) (invocation : TwrInvocation) : Prop :=
  ∃ context answer,
    (⟨.authorizeAttempt binding selection.dump context, answer⟩ : (op : CaptureCall) × op.Answer) ∈
      trace ∧ BoundAnswer py binding selection record.request.tenantId answer invocation

section Selections

variable {binding : TwrJobBinding} {selection : CompositeReportSelection}

theorem guarded_authorizeSelection (hbinding : jobBinding co record = .ok binding)
    (hselection : selection ∈ request.twrSelections) (context : TwrAttemptContext) :
    Capture.Guarded (ReadsBound py co record request) (AuthorityBound py record request)
      (AuthorizedBy py record binding selection) before
      (authorizeSelection py co record selection context) := by
  unfold authorizeSelection
  rw [hbinding, lift_ok_bind]
  apply guarded_perform_bind trivial
  · intro answer
    cases hadmitted : admitAnswer py binding selection record.request.tenantId answer with
    | error e => exact .inr (raises_lift rfl)
    | ok invocation =>
        exact .inl ⟨selection, hselection, rfl, invocation, boundAnswer_of_admitAnswer py hadmitted⟩
  · intro answer
    apply guarded_lift
    intro invocation hadmitted
    refine ⟨context, answer, ?_, boundAnswer_of_admitAnswer py hadmitted⟩
    exact List.mem_append_right before List.mem_cons_self

theorem AuthorizedBy.append {trace : CaptureTrace} {invocation : TwrInvocation}
    (h : AuthorizedBy py record binding selection trace invocation) (after : CaptureTrace) :
    AuthorizedBy py record binding selection (trace ++ after) invocation := by
  obtain ⟨context, answer, hmem, hbound⟩ := h
  exact ⟨context, answer, List.mem_append_left after hmem, hbound⟩

theorem guarded_authorizeTwrSend (hbinding : jobBinding co record = .ok binding)
    (hselection : selection ∈ request.twrSelections) :
    Capture.Guarded (ReadsBound py co record request) (AuthorityBound py record request)
      (AuthorizedBy py record binding selection) before
      (authorizeTwrSend py co services record selection) := by
  unfold authorizeTwrSend
  apply guarded_perform_free
  · trivial
  intro attemptId
  apply guarded_bind (guarded_authorizeSelection hbinding hselection _)
  intro invocation after hauthorized
  split
  · apply guarded_perform_free
    · trivial
    intro appended
    apply guarded_bind (guarded_lift_true _)
    intro _ after' _
    apply guarded_pure
    rw [List.append_assoc]
    exact hauthorized.append _
  · exact guarded_pure hauthorized

end Selections

section Free

variable (py co services record)
variable {α β : Type}

/-- The computation neither reads a TWR nor asks for authority. -/
def Free (m : Capture α) : Prop := ∀ s, Program.Calls NeedsNoAuthority (m s)

theorem free_pure (a : α) : Free (pure a : Capture α) := fun _ => trivial

theorem free_lift (x : Except CaptureError α) : Free (lift x) := by
  intro s
  cases x with
  | error e => trivial
  | ok a => trivial

theorem free_raise (e : CaptureError) : Free (raise e : Capture α) := free_lift _

theorem free_modify (f : CaptureState → CaptureState) : Free (modify f) := fun _ => trivial

theorem free_perform {op : CaptureCall} (h : NeedsNoAuthority op) : Free (perform op) :=
  fun _ => ⟨h, fun _ => trivial⟩

theorem free_bind {m : Capture α} {k : α → Capture β} (hm : Free m) (hk : ∀ a, Free (k a)) :
    Free (m >>= k) := by
  intro s
  apply (hm s).andThen
  intro result
  exact hk result.1 result.2

theorem free_forEach {f : α → Capture β} (hf : ∀ a, Free (f a)) (items : List α) :
    Free (forEach f items) := by
  induction items with
  | nil => exact free_pure []
  | cons a items ih =>
      apply free_bind (hf a)
      intro b
      apply free_bind ih
      intro bs
      exact free_pure _

theorem guarded_of_calls {ε : Type} {p : Program CaptureCall CaptureCall.Answer (Except ε α)}
    (h : p.Calls NeedsNoAuthority) (before : CaptureTrace) :
    Program.Guarded (ReadsBound py co record request) (AuthorityBound py record request)
      Program.Failed (Program.Returned fun _ _ => True) before p := by
  induction p generalizing before with
  | done outcome => cases outcome <;> trivial
  | call op next ih =>
      refine ⟨?_, fun r => ⟨.inl ?_, ih r (h.2 r) _⟩⟩
      · have hop := h.1
        cases op <;> trivial
      · have hop := h.1
        cases op <;> trivial

variable {py co record} in
theorem Free.guarded {m : Capture α} (h : Free m) :
    Capture.Guarded (ReadsBound py co record request) (AuthorityBound py record request)
      (fun _ _ => True) before m :=
  fun s => guarded_of_calls py co record (h s) before

theorem free_admitTwrAnswer (selection : CompositeReportSelection) (answer : SourceAnswer) :
    Free (admitTwrAnswer services record selection answer) := by
  unfold admitTwrAnswer
  split
  · exact free_raise _
  · exact free_raise _
  · exact free_bind (free_modify _) fun _ => free_raise _
  · split
    · exact free_raise _
    · apply free_bind (free_modify _)
      intro _
      split
      · exact free_bind (free_modify _) fun _ => free_raise _
      · apply free_bind (free_lift _)
        intro dataset
        split
        · exact free_raise _
        · split
          · exact free_bind (free_modify _) fun _ => free_pure _
          · exact free_pure _

theorem free_manageRead (endpoint : String) (binding : Option Fields)
    (contractVersion : String) :
    Free (manageRead services record endpoint binding contractVersion) := by
  unfold manageRead
  split
  · apply free_bind (free_perform (by trivial))
    intro answer
    unfold admitManageAnswer
    split
    · exact free_bind (free_modify _) fun _ => free_raise _
    · apply free_bind (free_modify _)
      intro _
      split
      · exact free_raise _
      · exact free_pure _
  · exact free_bind (free_modify _) fun _ => free_raise _

theorem free_readPooled (calculationId : String) :
    Free (readPooled services record calculationId) := by
  unfold readPooled
  dsimp only
  split
  · apply free_bind (free_perform (by trivial))
    intro answer
    split
    · exact free_bind (free_modify _) fun _ => free_raise _
    · apply free_bind (free_modify _)
      intro _
      split
      · exact free_raise _
      · exact free_pure _
  · exact free_raise _

theorem free_capturePooled (selection : PooledAnalysisSelection) :
    Free (capturePooled services record selection) := by
  unfold capturePooled
  apply free_bind (free_readPooled services record _)
  intro payload
  apply free_bind (free_lift _)
  intro _
  apply free_bind
  · unfold readPredecessor
    split
    · exact free_pure _
    · exact free_bind (free_readPooled services record _) fun _ => free_pure _
  · intro predecessor
    dsimp only
    split
    · exact free_raise _
    · exact free_lift _

theorem free_captureLinked (selection : LinkedAnalysisSelection) :
    Free (captureLinked services record selection) := by
  unfold captureLinked
  split
  · apply free_bind (free_perform (by trivial))
    intro answer
    split
    · exact free_bind (free_modify _) fun _ => free_raise _
    · exact free_bind (free_modify _) fun _ => free_lift _
  · exact free_raise _

theorem free_eligibilityRead (endpoint : String) (binding : Option Fields) :
    Free (eligibilityRead services record endpoint binding) := by
  unfold eligibilityRead
  apply free_bind (free_manageRead services record _ _ _)
  intro response
  apply free_bind (free_modify _)
  intro _
  apply free_bind
  · intro s
    unfold requireCapacity
    split <;> trivial
  · intro _
    exact free_pure _

theorem free_captureMonthEvidence (definition : String) (pin : MonthPin) :
    Free (captureMonthEvidence services record definition pin) := by
  have hread := free_eligibilityRead services record
  unfold captureMonthEvidence
  split
  · exact free_bind (hread _ _) fun _ => free_pure _
  · apply free_bind (hread _ _)
    intro member
    apply free_bind (hread _ _)
    intro attested
    apply free_bind (free_lift _)
    intro _
    apply free_bind (free_lift _)
    intro binding
    apply free_bind (hread _ _)
    intro receipt
    apply free_bind (hread _ _)
    intro parent
    exact free_bind (hread _ _) fun _ => free_pure _

theorem free_captureLineage (definition : String) (pin : MonthPin) (receipts : List ReceiptPin)
    (month : Fields) :
    Free (captureLineage py services record definition pin receipts month) := by
  have hread := free_eligibilityRead services record
  unfold captureLineage
  apply free_bind (free_lift _)
  intro proposal
  apply free_bind
  · unfold captureParentPublication
    split
    · exact free_pure _
    · apply free_bind (free_lift _)
      intro amendment
      apply free_bind (free_lift _)
      intro sequence
      exact free_bind (hread _ _) fun _ => free_pure _
  · intro parent
    apply free_bind (free_forEach (fun _ => hread _ _) receipts)
    intro lineage
    exact free_pure _

theorem free_captureMonth (selection : EligibilitySelection) (pin : MonthPin) :
    Free (captureMonth py services record selection pin) := by
  unfold captureMonth
  apply free_bind (free_captureMonthEvidence services record _ _)
  intro month
  apply free_bind
  · unfold withLineage
    split
    · exact free_captureLineage py services record _ _ _ _
    · split
      · split <;> exact free_pure _
      · exact free_pure _
  · intro month'
    exact free_pure _

theorem free_captureEligibility (selection : EligibilitySelection) :
    Free (captureEligibility py services record selection) := by
  unfold captureEligibility
  split
  · exact free_raise _
  · apply free_bind (free_forEach (free_captureMonth py services record selection) _)
    intro months
    exact free_lift _

theorem free_captureSourceContext (selection : CompositeReportSelection)
    (context : CompositeSourceContextSelection) (dataset : Json) :
    Free (captureSourceContext services record selection context dataset) := by
  have hread := free_manageRead services record
  unfold captureSourceContext
  apply free_bind (hread _ _ _)
  intro definition
  apply free_bind (free_forEach (fun _ => hread _ _ _) _)
  intro memberships
  exact free_lift _

end Free

section Capture

variable {binding : TwrJobBinding}

theorem guarded_captureSelection (hsha : Function.Injective py.sha256)
    (hbinding : jobBinding co record = .ok binding)
    (hadmission : request.requireAdmission py record.request.tenantId (some binding.admission) =
      .ok ()) {selection : CompositeReportSelection}
    (hselection : selection ∈ request.twrSelections) :
    Capture.Guarded (ReadsBound py co record request) (AuthorityBound py record request)
      (fun _ _ => True) before (captureSelection py co services record selection) := by
  unfold captureSelection
  split
  · apply guarded_bind (guarded_authorizeTwrSend hbinding hselection)
    intro invocation after hauthorized
    apply guarded_perform_bind
    · refine ⟨binding, selection, ?_⟩
      constructor
      · exact bindingOf_of_jobBinding hbinding
      · exact hselection
      · rfl
      · rfl
      · exact hauthorized
      · intro admitted hwf hdigest
        exact CompositeReviewJobRequest.mem_of_selectorSetDigest hsha hselection hadmission hwf
          hdigest
    · intro answer
      exact .inl trivial
    · intro answer
      exact (free_admitTwrAnswer services record selection answer).guarded
  · exact guarded_raise _

/-- Without an admission of its own that covers the request, the capture of returns makes no
call. -/
theorem raises_capturePrimary (hselection : request.selection.isSome = true)
    (hrefused : ¬Admitted py co record request) :
    Raises (capturePrimary py co services record request) := by
  obtain ⟨selection, hsome⟩ := Option.isSome_iff_exists.mp hselection
  obtain ⟨hpooled, heligibility, hlinked⟩ := request.only_selection hselection
  unfold capturePrimary
  rw [hpooled, heligibility, hlinked, hsome]
  apply raises_lift_bind
  intro binding hbinding
  apply Raises.bind
  cases hadmission : request.requireAdmission py record.request.tenantId
      (some binding.admission) with
  | error e => exact raises_lift rfl
  | ok _ => exact absurd ⟨binding, hbinding, hadmission⟩ hrefused

/-- A primary operation other than a return selection needs no authority. -/
theorem free_capturePrimary (hselection : request.selection = none) :
    Free (capturePrimary py co services record request) := by
  unfold capturePrimary
  rw [hselection]
  split
  · exact free_capturePooled services record _
  · exact free_captureEligibility py services record _
  · exact free_captureLinked services record _
  · rename_i hnone
    cases hnone
  · exact free_raise _

theorem guarded_capturePrimary (hsha : Function.Injective py.sha256)
    (hbinding : jobBinding co record = .ok binding)
    (hadmission : request.requireAdmission py record.request.tenantId (some binding.admission) =
      .ok ()) :
    Capture.Guarded (ReadsBound py co record request) (AuthorityBound py record request)
      (fun _ _ => True) before (capturePrimary py co services record request) := by
  cases hselection : request.selection with
  | none => exact (free_capturePrimary hselection).guarded
  | some selection =>
      obtain ⟨hpooled, heligibility, hlinked⟩ := request.only_selection (by rw [hselection]; rfl)
      unfold capturePrimary
      rw [hpooled, heligibility, hlinked, hselection]
      dsimp only
      rw [hbinding, lift_ok_bind, hadmission, lift_ok_bind]
      apply guarded_bind
      · apply guarded_captureSelection hsha hbinding hadmission
        rw [CompositeReviewJobRequest.twrSelections, hselection]
        exact List.mem_cons_self
      · intro dataset after _
        exact guarded_lift_true _

theorem free_completeDataset (dataset : Json) (products : List Json) :
    Free (completeDataset services record request dataset products) := by
  unfold completeDataset
  apply free_bind (free_lift _)
  intro dataset
  apply free_bind
  · unfold attachContext
    split
    · exact free_pure _
    · exact free_captureSourceContext services record _ _ _
    · exact free_raise _
  · intro dataset
    apply free_bind (free_lift _)
    intro _
    apply free_bind (free_lift _)
    intro _
    exact free_pure _

theorem guarded_collect (hsha : Function.Injective py.sha256)
    (hrequest : captureRequest co services record = .ok request) :
    Capture.Guarded (ReadsBound py co record request) (AuthorityBound py record request)
      (fun _ _ => True) before (collect py co services record) := by
  unfold collect
  rw [hrequest, lift_ok_bind]
  apply guarded_bind (guarded_lift_true _)
  intro _ after _
  cases hselection : request.selection with
  | none =>
      apply guarded_bind (free_capturePrimary hselection).guarded
      intro dataset after' _
      rw [request.sourceProducts_eq_nil hselection]
      exact (free_completeDataset dataset []).guarded
  | some selection =>
      by_cases hadmitted : Admitted py co record request
      · obtain ⟨binding, hbinding, hadmission⟩ := hadmitted
        apply guarded_bind (guarded_capturePrimary hsha hbinding hadmission)
        intro dataset after' _
        apply guarded_bind
        · apply guarded_forEach
          intro product hproduct after''
          apply guarded_bind
          · apply guarded_captureSelection hsha hbinding hadmission
            exact CompositeReviewJobRequest.product_mem_twrSelections hproduct
          · intro captured _ _
            exact guarded_lift_true _
        · intro products after'' _
          exact (free_completeDataset dataset products).guarded
      · have hraises : Raises (capturePrimary py co services record request) :=
          raises_capturePrimary (by rw [hselection]; rfl) hadmitted
        exact hraises.bind.guarded

theorem runs_collectForJob_of_raises (h : Raises (collect py co services record))
    {trace : CaptureTrace} {outcome : Except InputCaptureError InputCapture}
    (hrun : (collectForJob py co services record).Runs trace outcome) :
    trace = [] ∧ Program.Failed outcome := by
  obtain ⟨failure, hfailure⟩ := h {}
  unfold collectForJob at hrun
  rw [hfailure, Program.bind_done] at hrun
  cases hrun
  exact ⟨rfl, trivial⟩

/-- In every run of a capture, each TWR read carries the invocation that the provider gave, under
the binding of the job, for the pinned selection and its payload; an answer that is not bound so
ends the capture with an error before the read; and a capture of returns without an admission of
its own that covers the request makes no call. -/
theorem composite_twr_reads_bound (hsha : Function.Injective py.sha256) {trace : CaptureTrace}
    {outcome : Except InputCaptureError InputCapture}
    (hrun : (collectForJob py co services record).Runs trace outcome) :
    (∀ passed payload admittedTenantId invocation answer after,
      trace = passed ++ ⟨.getCompositeTwr payload admittedTenantId invocation, answer⟩ :: after →
      ∃ request binding selection, captureRequest co services record = .ok request ∧
        BoundRead py co record request passed payload admittedTenantId invocation binding
          selection) ∧
    (∀ passed binding exactSelector context answer after,
      trace = passed ++ ⟨.authorizeAttempt binding exactSelector context, answer⟩ :: after →
      (∃ request selection invocation, captureRequest co services record = .ok request ∧
        selection ∈ request.twrSelections ∧ exactSelector = selection.dump ∧
        BoundAnswer py binding selection record.request.tenantId answer invocation) ∨
      after = [] ∧ Program.Failed outcome) ∧
    (∀ request, captureRequest co services record = .ok request →
      request.selection.isSome = true → ¬Admitted py co record request →
      trace = [] ∧ Program.Failed outcome) := by
  cases hrequest : captureRequest co services record with
  | error e =>
      have hraises : Raises (collect py co services record) := by
        unfold collect
        exact (raises_lift hrequest).bind
      obtain ⟨rfl, hfailed⟩ := runs_collectForJob_of_raises hraises hrun
      refine ⟨?_, ?_, ?_⟩
      · intro passed _ _ _ _ _ htrace
        cases passed <;> cases htrace
      · intro passed _ _ _ _ _ htrace
        cases passed <;> cases htrace
      · intro request h
        cases h
  | ok request =>
      have hguarded : Program.Guarded (ReadsBound py co record request)
          (AuthorityBound py record request) Program.Failed (Program.Returned fun _ _ => True) []
          (collectForJob py co services record) := by
        apply (guarded_collect hsha hrequest {}).bind
        · intro outcome hF
          cases outcome with
          | error failure => exact ⟨_, rfl, trivial⟩
          | ok result => cases hF
        · intro outcome after _
          cases outcome with
          | error failure => trivial
          | ok result => trivial
      refine ⟨?_, ?_, ?_⟩
      · intro passed payload admittedTenantId invocation answer after htrace
        obtain ⟨⟨binding, selection, hbound⟩, -⟩ := hguarded.of_runs hrun htrace
        exact ⟨request, binding, selection, rfl, hbound⟩
      · intro passed binding exactSelector context answer after htrace
        rcases (hguarded.of_runs hrun htrace).2 with ⟨selection, hmem, hexact, invocation, hbound⟩ | hend
        · exact .inl ⟨request, selection, invocation, rfl, hmem, hexact, hbound⟩
        · exact .inr hend
      · intro request' hsame hselection hrefused
        cases hsame
        apply runs_collectForJob_of_raises _ hrun
        unfold collect
        rw [hrequest, lift_ok_bind]
        apply raises_lift_bind
        intro _ _
        exact (raises_capturePrimary hselection hrefused).bind

end Capture

end Authority

section Scripted

open Capture

variable {py : Runtime} {co : Coercions} (services : CaptureServices) {record : JobFile}
  (respond : (op : CaptureCall) → op.Answer) {binding : TwrJobBinding}
  {selection : CompositeReportSelection} {invocation : TwrInvocation}

theorem runWith_captureSelection (hclient : services.hasPerformanceClient = true)
    (hledger : services.hasJobLedger = true) (hbinding : jobBinding co record = .ok binding)
    (context : TwrAttemptContext) (hcontext : context = attemptContext record (respond .uuid4))
    (hgranted : admitAnswer py binding selection record.request.tenantId
      (respond (.authorizeAttempt binding selection.dump context)) = .ok invocation)
    (happend : respond (.appendJobEvent (invocationEvent record invocation context)) = .ok ())
    (s : CaptureState) :
    let read := CaptureCall.getCompositeTwr selection.performanceRequest record.request.tenantId
      invocation
    let rest := (admitTwrAnswer services record selection (respond read) s).runWith respond
    ∃ passed, (captureSelection py co services record selection s).runWith respond =
      (passed ++ ⟨read, respond read⟩ :: rest.1, rest.2) := by
  intro read rest
  have hauthorize : (authorizeSelection py co record selection context s).runWith respond =
      ([⟨.authorizeAttempt binding selection.dump context,
        respond (.authorizeAttempt binding selection.dump context)⟩], .ok (invocation, s)) := by
    unfold authorizeSelection
    rw [hbinding, lift_ok_bind, runWith_perform_bind, hgranted]
    rfl
  have hsend : (authorizeTwrSend py co services record selection s).runWith respond =
      ([⟨.uuid4, respond .uuid4⟩,
        ⟨.authorizeAttempt binding selection.dump context,
          respond (.authorizeAttempt binding selection.dump context)⟩,
        ⟨.appendJobEvent (invocationEvent record invocation context), .ok ()⟩],
        .ok (invocation, s)) := by
    unfold authorizeTwrSend
    rw [runWith_perform_bind]
    dsimp only
    rw [← hcontext, runWith_bind_ok respond hauthorize, if_pos hledger,
      runWith_perform_bind, happend]
    rfl
  unfold captureSelection
  rw [if_pos hclient, runWith_bind_ok respond hsend, runWith_perform_bind]
  exact ⟨_, rfl⟩

end Scripted

section Samples

open Capture

/-- The pinned selection of one January. -/
def sampleSelection : Json :=
  .obj
    [ ("tenant_id", .str "tenant-1"),
      ("composite_id", .str "composite-1"),
      ("calculation_id", .str "11111111-1111-4111-8111-111111111111"),
      ("period_start", .str "2026-01-01"),
      ("period_end", .str "2026-01-31"),
      ("reporting_currency", .str "USD"),
      ("return_view", .str "GROSS"),
      ("methodology", .str "twr-v1"),
      ("engine_version", .str "engine-1"),
      ("calculation_fingerprint", .str (repeatedDigest 'a')),
      ("response_digest", .str (repeatedDigest 'b')),
      ("windows", .arr [.obj
        [ ("materialization_id", .str "22222222-2222-4222-8222-222222222222"),
          ("period_start", .str "2026-01-01"),
          ("period_end", .str "2026-01-31"),
          ("restatement_sequence", .int 1),
          ("definition_content_hash", .str (repeatedDigest 'c')),
          ("membership_content_hash", .str (repeatedDigest 'd')),
          ("attestation_content_hash", .str (repeatedDigest 'e')),
          ("source_cut_id", .str "cut-1"),
          ("method_binding", .obj [("weighting", .str "beginning-asset")]),
          ("retained_receipt_fingerprint", .str (repeatedDigest 'f')) ]]) ]

/-- The payload that is sent for it. -/
def samplePayload : Json :=
  .obj
    [ ("calculation_id", .str "11111111-1111-4111-8111-111111111111"),
      ("composite_id", .str "composite-1"),
      ("period_start", .str "2026-01-01"),
      ("period_end", .str "2026-01-31"),
      ("reporting_currency", .str "USD"),
      ("return_view", .str "GROSS"),
      ("materialization_ids", .arr [.str "22222222-2222-4222-8222-222222222222"]) ]

/-- SHA-256 of the three texts that the sample digests, extended injectively. -/
def sampleRuntime : Runtime where
  sha256 := fun text =>
    if text = Json.canonicalJson (.arr [sampleSelection]) then
      "b09dcb2e9bea4af4c2b247a63c941ab88de5144548c7edc26506b005d94c32d6"
    else if text = Json.canonicalJson sampleSelection then
      "540568e1efab9c270afeaa72845a2bc52bc011db5e12aadf3135c7b0c7bb26d4"
    else if text = Json.canonicalJson samplePayload then
      "fdc7dce75c29cc037c226e96d64077c3d5ee8efde51335c111a062b5b12e06fd"
    else "digest of " ++ text
  isPrintable := fun _ => true

/-- The admission of the sample job. -/
def sampleAdmission : AcceptedTwrAdmission where
  bindingReference := "binding-1"
  issuer := "issuer-1"
  trustConfigDigest := String.ofList (List.replicate 64 '1')
  principal := .service
  subject := "lotus-report"
  tenantId := "tenant-1"
  resolverPolicyVersion := "policy-1"
  effectiveScopeDigest := String.ofList (List.replicate 64 '2')
  selectorSetDigest := "b09dcb2e9bea4af4c2b247a63c941ab88de5144548c7edc26506b005d94c32d6"
  admittedAt := "2026-02-01T00:00:00Z"

/-- The binding of the sample job. -/
def sampleBinding : TwrJobBinding := ⟨sampleAdmission, "rreq_1", "rjob_1", "corr-1", "trace-1"⟩

/-- A stored composite review with its binding. -/
def sampleJob : JobFile where
  request :=
    { reportRequestId := "rreq_1"
      reportType := "composite_review"
      portfolioScope := [("composite_id", .str "composite-1")]
      requestedOutputFormats := ["json"]
      asOfDate := "2026-01-31"
      reportingCurrency := some "USD"
      options := [("composite_selection", sampleSelection),
        (bindingOption, sampleBinding.dump)]
      triggerType := .user
      triggeredBy := "advisor-1"
      callerApplication := "workbench"
      tenantId := "tenant-1"
      region := "eu"
      bookingCenterCode := none
      role := none
      idempotencyKey := "key-1"
      requestHash := "hash-1"
      correlationId := "corr-1"
      traceId := "trace-1"
      createdAt := ⟨0, false⟩ }
  job :=
    { reportJobId := "rjob_1"
      reportRequestId := "rreq_1"
      reportType := "composite_review"
      portfolioScope := [("composite_id", .str "composite-1")]
      status := .collectingData
      currentStep := "collecting_data"
      createdAt := ⟨0, false⟩
      updatedAt := ⟨0, false⟩ }
  work := none
  events := []

/-- Services whose dataset functions are never reached. -/
def sampleServices : CaptureServices where
  hasPerformanceClient := true
  hasManageClient := true
  hasJobLedger := true
  historicalPolicyEnabled := false
  parsers := ⟨fun _ => .error .refused, fun _ => .error .refused, fun _ => .error .refused⟩
  admitCompositeResponse := fun _ _ _ _ => .error (.evidenceRefused "COMPOSITE_REPORT_SOURCE_UNAVAILABLE")
  buildCompositeTables := .ok
  capturedReturnProduct := fun _ captured => .ok captured
  buildProductTables := fun dataset _ => .ok dataset
  projectSourceContext := fun dataset _ _ _ => .ok dataset
  admitPooledResponse := fun _ _ _ => .ok ()
  buildPooledDataset := fun selection _ _ _ => .ok selection.dump
  buildLinkedDataset := fun selection _ _ _ => .ok selection.dump
  monthlyDataset := fun _ months => .ok (.arr months)
  requireHash := fun _ => .ok ()
  responseDigest := fun _ => ""
  validateCompositeDataset := fun _ => .ok ()

/-- The invocation that the sample's provider gives. -/
def sampleInvocation : TwrInvocation where
  admission := some sampleAdmission
  exactSelectorDigest := some "540568e1efab9c270afeaa72845a2bc52bc011db5e12aadf3135c7b0c7bb26d4"
  requestPayloadDigest := some "fdc7dce75c29cc037c226e96d64077c3d5ee8efde51335c111a062b5b12e06fd"
  credentialId := some "credential-1"
  validatedAt := some ⟨"2026-02-01T00:00:00+00:00", true⟩
  credential := some (some "token-1")

/-- The provider authorises the selection, and the source is overloaded. -/
def sampleAnswers : (op : CaptureCall) → op.Answer
  | .uuid4 => "attempt1"
  | .authorizeAttempt _ _ _ => .invocation sampleInvocation
  | .appendJobEvent _ => .ok ()
  | .getCompositeTwr _ _ _ => .answered 503 []
  | .getCompositeAnalytics _ _ => .raised .other
  | .getRetainedCompositePooledResult _ _ => .raised .other
  | .readEligibility _ _ _ => .raised .other

theorem injective_ite {f : String → String} (hf : Function.Injective f) {a b : String}
    (hb : ∀ x, f x ≠ b) : Function.Injective fun x => if x = a then b else f x := by
  intro x y hxy
  dsimp only at hxy
  split at hxy
  · rename_i hx
    split at hxy
    · rename_i hy
      rw [hx, hy]
    · exact absurd hxy.symm (hb y)
  · split at hxy
    · exact absurd hxy (hb x)
    · exact hf hxy

theorem ite_ne {f : String → String} {a b c : String} (hbc : b ≠ c) (hf : ∀ x, f x ≠ c)
    (x : String) : (if x = a then b else f x) ≠ c := by
  split
  · exact hbc
  · exact hf x

theorem append_ne_ofList {c : Char} {cs : List Char} (h : c ≠ 'd') (text : String) :
    "digest of " ++ text ≠ String.ofList (c :: cs) := by
  intro heq
  have hhead := congrArg (fun whole : String => whole.toList.head?) heq
  simp only [String.toList_append, String.toList_ofList, List.head?_cons] at hhead
  exact h (Option.some.inj hhead).symm

theorem sampleRuntime_injective : Function.Injective sampleRuntime.sha256 := by
  have happend : Function.Injective fun text : String => "digest of " ++ text := by
    intro x y hxy
    simpa using hxy
  apply injective_ite
  · apply injective_ite
    · exact injective_ite happend (append_ne_ofList (by decide))
    · exact ite_ne (by decide) (append_ne_ofList (by decide))
  · exact ite_ne (by decide) (ite_ne (by decide) (append_ne_ofList (by decide)))

theorem digest_sampleSelectorSet : sampleRuntime.digest (.arr [sampleSelection]) =
    "b09dcb2e9bea4af4c2b247a63c941ab88de5144548c7edc26506b005d94c32d6" := by
  simp only [Runtime.digest, sampleRuntime, if_true]

theorem digest_sampleSelection : sampleRuntime.digest sampleSelection =
    "540568e1efab9c270afeaa72845a2bc52bc011db5e12aadf3135c7b0c7bb26d4" := by
  have hne : Json.canonicalJson sampleSelection ≠ Json.canonicalJson (.arr [sampleSelection]) := by
    rw [ne_eq, Json.canonicalJson_eq_iff (by decide) (by decide)]
    decide
  simp only [Runtime.digest, sampleRuntime, if_neg hne, if_true]

theorem digest_samplePayload : sampleRuntime.digest samplePayload =
    "fdc7dce75c29cc037c226e96d64077c3d5ee8efde51335c111a062b5b12e06fd" := by
  have hset : Json.canonicalJson samplePayload ≠ Json.canonicalJson (.arr [sampleSelection]) := by
    rw [ne_eq, Json.canonicalJson_eq_iff (by decide) (by decide)]
    decide
  have hselection : Json.canonicalJson samplePayload ≠ Json.canonicalJson sampleSelection := by
    rw [ne_eq, Json.canonicalJson_eq_iff (by decide) (by decide)]
    decide +kernel
  simp only [Runtime.digest, sampleRuntime, if_neg hset, if_neg hselection, if_true]

theorem captureRequest_sample : ∃ request selection,
    captureRequest Coercions.standard sampleServices sampleJob = .ok request ∧
      requireJobIdentity sampleJob request = .ok () ∧ request.selection = some selection ∧
      request.sourceProducts = none ∧ selection.dump = sampleSelection ∧
      selection.performanceRequest = samplePayload := by
  have hparsed : (match captureRequest Coercions.standard sampleServices sampleJob with
      | .error _ => false
      | .ok request => (requireJobIdentity sampleJob request).isOk &&
          request.sourceProducts.isNone && request.selection.any fun selection =>
            selection.dump.same sampleSelection &&
              selection.performanceRequest.same samplePayload) = true := by
    decide +kernel
  split at hparsed
  · cases hparsed
  · rename_i request hrequest
    simp only [Bool.and_eq_true, Fallible.isOk_eq_true, Option.isNone_iff_eq_none,
      Option.any_eq_true, Json.same_iff] at hparsed
    obtain ⟨⟨⟨_, hidentity⟩, hproducts⟩, selection, hselection, hdump, hpayload⟩ := hparsed
    exact ⟨request, selection, hrequest, hidentity, hselection, hproducts, hdump, hpayload⟩

theorem jobBinding_sample : jobBinding Coercions.standard sampleJob = .ok sampleBinding := by
  have hvalid : (match jobBinding Coercions.standard sampleJob with
      | .error _ => false
      | .ok binding =>
          decide (binding = sampleBinding)) = true := by
    decide +kernel
  split at hvalid
  · cases hvalid
  · rename_i binding hbinding
    rw [hbinding, of_decide_eq_true hvalid]

theorem admitAnswer_sample {selection : CompositeReportSelection}
    (hdump : selection.dump = sampleSelection)
    (hpayload : selection.performanceRequest = samplePayload) :
    admitAnswer sampleRuntime sampleBinding selection "tenant-1" (.invocation sampleInvocation) =
      .ok sampleInvocation := by
  have hrequest : sampleInvocation.requireRequest sampleRuntime samplePayload "tenant-1" =
      .ok (sampleAdmission,
        "540568e1efab9c270afeaa72845a2bc52bc011db5e12aadf3135c7b0c7bb26d4") := by
    unfold TwrInvocation.requireRequest sampleInvocation
    dsimp only
    rw [digest_samplePayload, if_neg (by decide +kernel)]
  unfold admitAnswer
  dsimp only
  rw [hpayload, hrequest, hdump, digest_sampleSelection]
  simp [sampleBinding, bind, Except.bind]

/-- The sample capture reads the source once, under the authority of its job. -/
theorem composite_twr_reads_bound_sample : ∃ passed request binding selection,
    ((collectForJob sampleRuntime Coercions.standard sampleServices sampleJob).runWith
        sampleAnswers).1 =
      passed ++ [⟨.getCompositeTwr samplePayload "tenant-1" sampleInvocation,
        SourceAnswer.answered 503 []⟩] ∧
    captureRequest Coercions.standard sampleServices sampleJob = .ok request ∧
    BoundRead sampleRuntime Coercions.standard sampleJob request passed samplePayload "tenant-1"
      sampleInvocation binding selection := by
  obtain ⟨request, selection, hrequest, hidentity, hselection, hproducts, hdump, hpayload⟩ :=
    captureRequest_sample
  obtain ⟨hpooled, heligibility, hlinked⟩ := request.only_selection (by rw [hselection]; rfl)
  have hselectors : request.selectorSetFor sampleRuntime = [sampleSelection] := by
    rw [CompositeReviewJobRequest.selectorSetFor, CompositeReviewJobRequest.twrSelections,
      hselection, hproducts]
    simp [hdump]
  have hadmission : request.requireAdmission sampleRuntime sampleJob.request.tenantId
      (some sampleBinding.admission) = .ok () := by
    unfold CompositeReviewJobRequest.requireAdmission
    rw [hselectors]
    dsimp only
    rw [digest_sampleSelectorSet]
    exact if_pos ⟨rfl, rfl⟩
  obtain ⟨passed, hread⟩ : ∃ passed,
      (captureSelection sampleRuntime Coercions.standard sampleServices sampleJob selection
        {}).runWith sampleAnswers =
      (passed ++ [⟨.getCompositeTwr samplePayload "tenant-1" sampleInvocation,
        SourceAnswer.answered 503 []⟩], .error (.retryable, {})) := by
    obtain ⟨passed, hrun⟩ := runWith_captureSelection sampleServices sampleAnswers rfl rfl
      jobBinding_sample (attemptContext sampleJob "attempt1") rfl
      (admitAnswer_sample hdump hpayload) rfl {}
    rw [hpayload] at hrun
    exact ⟨passed, hrun⟩
  have hprimary : (capturePrimary sampleRuntime Coercions.standard sampleServices sampleJob request
      {}).runWith sampleAnswers = (passed ++ [⟨.getCompositeTwr samplePayload "tenant-1"
        sampleInvocation, SourceAnswer.answered 503 []⟩], .error (.retryable, {})) := by
    unfold capturePrimary
    rw [hpooled, heligibility, hlinked, hselection]
    dsimp only
    rw [jobBinding_sample, lift_ok_bind, hadmission, lift_ok_bind]
    exact runWith_bind_error sampleAnswers hread
  have htrace : ((collectForJob sampleRuntime Coercions.standard sampleServices sampleJob).runWith
      sampleAnswers).1 = passed ++ [⟨.getCompositeTwr samplePayload "tenant-1" sampleInvocation,
        SourceAnswer.answered 503 []⟩] := by
    unfold collectForJob collect
    rw [hrequest, lift_ok_bind, hidentity, lift_ok_bind, Program.runWith_bind,
      runWith_bind_error sampleAnswers hprimary]
    exact List.append_nil _
  obtain ⟨request, binding, selection, hbound⟩ :=
    (composite_twr_reads_bound sampleRuntime_injective (Program.runs_runWith sampleAnswers _)).1
      passed samplePayload "tenant-1" sampleInvocation (.answered 503 []) [] htrace
  exact ⟨passed, request, binding, selection, htrace, hbound⟩

end Samples

end LotusReport.Composite
