import LotusReport.Composite.Selection
import LotusReport.Fallible.Checks
import LotusReport.Jobs.Admission
import LotusReport.Jobs.JobFile

/-!
# TWR invocation authority of a capture

A stored job carries the admission it was accepted under. Each selection that
the capture sends is authorised on its own: the deployment's provider answers
with an invocation, which must name the admission of the job, the selection
and the payload.
-/

namespace LotusReport.Composite

open Encoding Jobs

/-- What a capture raises. -/
inductive CaptureError where
  | evidenceRefused (code : String)
  | authorityRefused (code : String)
  | retryable
  /-- An exception of the language, or one raised by a client, a builder or the ledger. -/
  | raised (kind : String)
deriving DecidableEq, Repr

/-- `binding_for_job`, on the options as the ledger returns them. -/
def jobBinding (co : Coercions) (record : JobFile) : Except CaptureError TwrJobBinding :=
  (storedBinding co record.request record.job).mapError .authorityRefused

/-- The binding is the one persisted for this job, request, correlation and tenant. -/
structure BindingOf (co : Coercions) (record : JobFile) (binding : TwrJobBinding) : Prop where
  persisted : ∃ stored, Json.lookup record.request.options bindingOption = some stored ∧
    validateStoredBinding co stored = .ok binding
  jobId : binding.jobId = record.job.reportJobId
  requestId : binding.requestId = record.request.reportRequestId
  correlationId : binding.correlationId = record.request.correlationId
  traceId : binding.traceId = record.request.traceId
  tenantId : binding.admission.tenantId = record.request.tenantId

theorem bindingOf_of_jobBinding {co : Coercions} {record : JobFile} {binding : TwrJobBinding}
    (h : jobBinding co record = .ok binding) : BindingOf co record binding := by
  have hfound : storedBinding co record.request record.job = .ok binding := by
    unfold jobBinding at h
    cases hfound : storedBinding co record.request record.job with
    | error code =>
        rw [hfound] at h
        cases h
    | ok found =>
        rw [hfound] at h
        cases h
        rfl
  unfold storedBinding at hfound
  cases hstored : Json.lookup record.request.options bindingOption with
  | none =>
      rw [hstored] at hfound
      cases hfound
  | some stored =>
      rw [hstored, Option.getD_some] at hfound
      split at hfound
      · cases hfound
      · rename_i hvalid
        split at hfound
        · cases hfound
        · rename_i hsame
          cases hfound
          simp only [not_or, not_not] at hsame
          obtain ⟨hjob, hrequest, hcorrelation, htrace, htenant⟩ := hsame
          exact ⟨⟨stored, hstored, hvalid⟩, hjob, hrequest, hcorrelation, htrace, htenant⟩

section Invocation

/-- `TwrAttemptContext`. -/
structure TwrAttemptContext where
  jobId : String
  requestId : String
  correlationId : String
  traceId : String
  attemptId : String
deriving DecidableEq, Repr

/-- A `datetime`: the text that writes it, and whether it has a time zone. -/
structure ValidationTime where
  isoformat : String
  aware : Bool
deriving DecidableEq, Repr

/-- `TwrInvocation`, as a provider builds it: a field is `none` where its value is not of the
declared type. -/
structure TwrInvocation where
  admission : Option AcceptedTwrAdmission
  exactSelectorDigest : Option String
  requestPayloadDigest : Option String
  credentialId : Option String
  validatedAt : Option ValidationTime
  credential : Option (Option String)
deriving DecidableEq, Repr

/-- What a provider does with a request for authority. -/
inductive ProviderAnswer where
  | invocation (value : TwrInvocation)
  /-- It returned something else. -/
  | otherValue
  | raised
deriving DecidableEq, Repr

/-- A token of visible ASCII characters. -/
def isBearerToken (token : String) : Bool :=
  token != "" && token.toList.all fun c => 33 ≤ c.toNat && c.toNat ≤ 126

variable (py : Runtime)

/-- `TwrInvocation.require_request`, with the fields whose types it has checked. -/
def TwrInvocation.requireRequest (invocation : TwrInvocation) (payload : Json) (tenantId : String) :
    Except CaptureError (AcceptedTwrAdmission × String) :=
  match invocation with
  | ⟨some admission, some exactSelectorDigest, some requestPayloadDigest, some credentialId,
      some validatedAt, some (some token)⟩ =>
      if isBearerToken token = false ∨ admission.tenantId ≠ tenantId ∨
          py.digest payload ≠ requestPayloadDigest ∨ credentialId = "" ∨
          200 < credentialId.length ∨ validatedAt.aware = false then
        .error (.authorityRefused "COMPOSITE_TWR_INVOCATION_INVALID")
      else .ok (admission, exactSelectorDigest)
  | _ => .error (.authorityRefused "COMPOSITE_TWR_INVOCATION_INVALID")

/-- The checks of `authorize_selection` on the answer of the provider. -/
def admitAnswer (binding : TwrJobBinding) (selection : CompositeReportSelection)
    (tenantId : String) : ProviderAnswer → Except CaptureError TwrInvocation
  | .raised => .error (.authorityRefused "COMPOSITE_TWR_CURRENT_AUTHORITY_REFUSED")
  | .otherValue => .error (.authorityRefused "COMPOSITE_TWR_CURRENT_AUTHORITY_CONFLICT")
  | .invocation invocation => do
      let (admission, exactSelectorDigest) ←
        invocation.requireRequest py selection.performanceRequest tenantId
      if admission.securityIdentity ≠ binding.admission.securityIdentity ∨
          exactSelectorDigest ≠ py.digest selection.dump then
        .error (.authorityRefused "COMPOSITE_TWR_CURRENT_AUTHORITY_CONFLICT")
      else .ok invocation

/-- The answer is an invocation under the admission of the binding, for exactly this selection
and its payload. -/
structure BoundAnswer (binding : TwrJobBinding) (selection : CompositeReportSelection)
    (tenantId : String) (answer : ProviderAnswer) (invocation : TwrInvocation) : Prop where
  answered : answer = .invocation invocation
  admission : ∃ admission, invocation.admission = some admission ∧
    admission.securityIdentity = binding.admission.securityIdentity ∧
    admission.tenantId = tenantId
  selector : invocation.exactSelectorDigest = some (py.digest selection.dump)
  payload : invocation.requestPayloadDigest = some (py.digest selection.performanceRequest)
  credential : ∃ token, invocation.credential = some (some token) ∧ isBearerToken token = true

theorem boundAnswer_of_admitAnswer {binding : TwrJobBinding}
    {selection : CompositeReportSelection} {tenantId : String} {answer : ProviderAnswer}
    {invocation : TwrInvocation}
    (h : admitAnswer py binding selection tenantId answer = .ok invocation) :
    BoundAnswer py binding selection tenantId answer invocation := by
  cases answer with
  | otherValue => cases h
  | raised => cases h
  | invocation value =>
      obtain ⟨⟨admission, exactSelectorDigest⟩, hrequest, hbound⟩ := Fallible.bind_eq_ok.mp h
      dsimp only at hbound
      split at hbound
      · cases hbound
      · rename_i hsame
        cases hbound
        simp only [not_or, not_not] at hsame
        obtain ⟨hidentity, hselector⟩ := hsame
        unfold TwrInvocation.requireRequest at hrequest
        split at hrequest
        · split at hrequest
          · cases hrequest
          · rename_i hvalid
            cases hrequest
            simp only [not_or, not_not, Bool.not_eq_false] at hvalid
            obtain ⟨htoken, htenant, hpayload, -⟩ := hvalid
            constructor
            · rfl
            · exact ⟨admission, rfl, hidentity, htenant⟩
            · rw [hselector]
            · rw [hpayload]
            · exact ⟨_, rfl, htoken⟩
        · cases hrequest

end Invocation

end LotusReport.Composite
