import LotusReport.Batch.ItemKeys
import LotusReport.Jobs.Idempotency
import LotusReport.Replay.OneRecovery

/-!
# Derived idempotency keys

Direct submissions, batch dispatches, item replays and job replays ask one
ledger for a job, each under a key of its own making, in one namespace for each
tenant. The state lists what every such request resolved to. While clients keep
away from the shapes of the derived keys and no portfolio of a batch has a
colon in its name, different operations resolve to different rows, and a replay
returns jobs that a replay of the same source created.
-/

namespace LotusReport.Replay

open Encoding Fallible Relational StateMachine Jobs Batch

section Operations

/-- What asks for a job: a submission under a client's key, the dispatch of an item, the replay of
an item and the replay of a job under a key of the caller. -/
inductive Operation where
  | submission (clientKey : String)
  | dispatch (batchItemId : String)
  | itemReplay (batchItemId replayKey : String)
  | jobReplay (sourceJobId replayKey : String)
deriving DecidableEq, Repr

/-- The row that an operation resolved to: its tenant and key, its job, and whether the operation
created it. -/
structure Resolution where
  operation : Operation
  tenantId : String
  key : String
  jobId : String
  created : Bool
deriving DecidableEq, Repr

/-- The two ledgers, and what the operations resolved to. -/
structure KeyState where
  batches : BatchLedger
  jobs : Jobs.Ledger
  resolutions : List Resolution

/-- Empty ledgers. -/
def KeyState.empty : KeyState := ⟨.empty, .empty, []⟩

/-- The call creates no job. -/
def besidesCreation : Call → Bool
  | .ledger (.create _) => false
  | _ => true

/-- An operation, or another call on one of the ledgers. -/
inductive KeyEvent where
  | submit (call : { call : CreateCall // call.replay = none })
  | dispatch (batchItemId : String) (callerContext : ReportCallerContext) (generated : Generated)
  | replayItem (pass : ItemReplay)
  | replayJob (pass : JobReplay)
  | jobs (call : { call : Call // besidesCreation call = true })
  | batches (call : BatchCall)

/-- The creation that the dispatch of a leased item asks for. -/
def dispatchCreation (s : BatchLedger) (batchItemId : String) (callerContext : ReportCallerContext)
    (generated : Generated) : Option CreateCall := do
  let item ← s.items.find? batchItemId
  let batch ← s.batches.find? item.batchId
  let _ ← item.lease.token
  let request ← (itemRequest batch item.portfolioId).toOption
  return createPortfolioReviewJob callerContext (some item.itemIdempotencyKey) generated request

/-- The creation that `replay_item` asks for in its new branch. -/
def itemReplayCreation (s : KeyState) (pass : ItemReplay) : Option CreateCall := do
  let record ← (s.batches.loadBatch pass.batchId).toOption
  let item ← (s.batches.getBatchItem pass.batchId pass.batchItemId).toOption
  let replayKey ← (batchItemReplayIdempotencyKey pass.batchItemId pass.idempotencyKey).toOption
  let reportJobId ← item.reportJobId
  let source ← s.jobs.file? reportJobId
  let _ ← (assertReplayEligible source).toOption
  let request ← (itemRequest record.batch item.portfolioId).toOption
  if record.batch.tenantId = pass.callerContext.tenantId ∧
      source.request.tenantId = record.batch.tenantId ∧
      replayBranchFor item = some .newReplay then
    return createPortfolioReviewJob pass.callerContext (some replayKey) pass.generated request
  else none

/-- The creation that `replay_job` asks for once the archive outcome is resolved. -/
def jobReplayCreation (s : KeyState) (pass : JobReplay) : Option CreateCall := do
  let source ← s.jobs.file? pass.jobId
  let _ ← (assertJobVisible source pass.callerContext).toOption
  let _ ← (assertReplayEligible source).toOption
  let replayKey ← (replayIdempotencyKey source.job.reportJobId pass.idempotencyKey).toOption
  let _ ← (requireCompositeSnapshot pass source).toOption
  let request ← (replayRequest pass source).toOption
  (createReplayDerivedJob pass.callerContext (some replayKey) pass.generated
    pass.services.coercions source request (pass.services.compositeReplayRequest source)
    pass.reason).toOption

/-- The operation of an event, with the creation it asks the job ledger for. -/
def KeyState.creation (s : KeyState) : KeyEvent → Option (Operation × CreateCall)
  | .submit call => some (.submission (call.val.normalizedKey.getD ""), call.val)
  | .dispatch batchItemId callerContext generated =>
      (dispatchCreation s.batches batchItemId callerContext generated).map
        (.dispatch batchItemId, ·)
  | .replayItem pass =>
      (itemReplayCreation s pass).map
        (.itemReplay pass.batchItemId (strip (pass.idempotencyKey.getD "")), ·)
  | .replayJob pass =>
      (jobReplayCreation s pass).map (.jobReplay pass.jobId (strip (pass.idempotencyKey.getD "")), ·)
  | .jobs _ => none
  | .batches _ => none

/-- Ask the job ledger for a job, and note what it returned. -/
def KeyState.create (d : Deployment) (s : KeyState) (operation : Operation) (call : CreateCall) :
    KeyState :=
  match s.jobs.createReportJob d call with
  | .ok (record, jobs) =>
      { s with
        jobs := jobs
        resolutions := s.resolutions ++
          [{ operation := operation
             tenantId := call.callerContext.tenantId
             key := call.normalizedKey.getD ""
             jobId := record.job.reportJobId
             created := (s.jobs.jobs.find? record.job.reportJobId).isNone }] }
  | .error _ => s

/-- One step: an operation, or a call on one of the ledgers. -/
def KeyState.step (d : Deployment) (s : KeyState) : KeyEvent → KeyState
  | .jobs call => { s with jobs := s.jobs.step d call.val }
  | .batches call => { s with batches := Batch.step d.toRuntime s.batches call }
  | event =>
      match s.creation event with
      | some (operation, call) => s.create d operation call
      | none => s

end Operations

section Statement

/-- What the operations of a run resolved to. -/
structure KeysApart (s : KeyState) : Prop where
  /-- The job of an operation is stored under the operation's tenant and key. -/
  row : ∀ r ∈ s.resolutions, ∃ f, s.jobs.file? r.jobId = some f ∧
    f.request.identity = (r.tenantId, r.key)
  /-- Different operations do not resolve to one row. -/
  apart : ∀ r ∈ s.resolutions, ∀ r' ∈ s.resolutions, r.tenantId = r'.tenantId → r.key = r'.key →
    r.operation = r'.operation
  /-- The replay of a job returns a job that a replay of the same source created. -/
  replayed : ∀ r ∈ s.resolutions, ∀ sourceJobId replayKey,
    r.operation = .jobReplay sourceJobId replayKey → ∃ r' ∈ s.resolutions, r'.created = true ∧
      r'.jobId = r.jobId ∧ ∃ replayKey', r'.operation = .jobReplay sourceJobId replayKey'

/-- The creation of a batch, if the event is one, clashes with no stored item. -/
def CreatesApart (py : Runtime) (s : KeyState) : KeyEvent → Prop
  | .batches call => ClashFree py s.batches call
  | _ => True

/-- In every state of the run the operations resolved apart, and no creation of a batch clashes on
the key of an item. -/
def DerivedKeysApart (d : Deployment) (events : List KeyEvent) : Prop :=
  (∀ n, KeysApart (run (KeyState.step d) .empty (events.take n))) ∧
    Along (KeyState.step d) (CreatesApart d.toRuntime) .empty events

/-- The key reads as a key that is derived for a recovery. -/
def Reserved (key : String) : Prop := ':' ∈ key.toList ∧ kindOf key ∈ reservedKinds

/-- A client's key has the shape of no derived key, the recovered items and jobs have no colon in
their identifiers, and batches are created plainly. -/
def PlainEvent (py : Runtime) : KeyEvent → Prop
  | .submit call => ¬ Reserved (call.val.normalizedKey.getD "") ∧
      ¬ ItemShaped (call.val.normalizedKey.getD "")
  | .replayItem pass => ColonFree pass.batchItemId
  | .replayJob pass => ColonFree pass.jobId
  | .batches call => PlainCreation py call
  | _ => True

end Statement

section Keys

variable {s t : BatchLedger} {operation operation' : Operation} {key : String}

/-- The key under which an operation asks for its job. -/
def Keyed (s : BatchLedger) : Operation → String → Prop
  | .submission clientKey, key => key = clientKey ∧ ¬ Reserved key ∧ ¬ ItemShaped key
  | .dispatch batchItemId, key =>
      ∃ i ∈ s.items.rows, i.batchItemId = batchItemId ∧ key = strip i.itemIdempotencyKey
  | .itemReplay batchItemId replayKey, key =>
      ColonFree batchItemId ∧ key = joined "batch-item-replay" (joined batchItemId replayKey)
  | .jobReplay sourceJobId replayKey, key =>
      ColonFree sourceJobId ∧ key = joined "replay" (joined sourceJobId replayKey)

/-- The operation is a recovery. -/
def Operation.recovers : Operation → Bool
  | .submission _ => false
  | .dispatch _ => false
  | .itemReplay _ _ => true
  | .jobReplay _ _ => true

theorem reserved_joined {kind : String} (hkind : kind ∈ reservedKinds) (rest : String) :
    Reserved (joined kind rest) := by
  constructor
  · simp [toList_joined]
  · have hfree : ∀ kind ∈ reservedKinds, ColonFree kind := by decide
    rw [kindOf_joined, kindOf_of_colonFree (hfree kind hkind)]
    exact hkind

/-- The keys of recoveries, and no others, read as such. -/
theorem Keyed.reserved_iff (hs : PlainKeys s) (h : Keyed s operation key) :
    Reserved key ↔ operation.recovers = true := by
  cases operation with
  | submission clientKey => simp [h.2.1, Operation.recovers]
  | dispatch batchItemId =>
      obtain ⟨i, hi, -, rfl⟩ := h
      simp [Reserved, (hs.itemShaped hi).2, Operation.recovers]
  | itemReplay batchItemId replayKey =>
      rw [h.2]
      simp [reserved_joined (show "batch-item-replay" ∈ reservedKinds by decide),
        Operation.recovers]
  | jobReplay sourceJobId replayKey =>
      rw [h.2]
      simp [reserved_joined (show "replay" ∈ reservedKinds by decide), Operation.recovers]

theorem Keyed.inj (hs : PlainKeys s) (h : Keyed s operation key) (h' : Keyed s operation' key) :
    operation = operation' := by
  have hrecovers : operation.recovers = operation'.recovers := by
    rw [Bool.eq_iff_iff, ← h.reserved_iff hs, ← h'.reserved_iff hs]
  cases operation with
  | submission clientKey =>
      cases operation' with
      | submission clientKey' => rw [← h.1, ← h'.1]
      | dispatch batchItemId =>
          obtain ⟨i, hi, -, rfl⟩ := h'
          exact absurd (hs.itemShaped hi).1 h.2.2
      | itemReplay _ _ => cases hrecovers
      | jobReplay _ _ => cases hrecovers
  | dispatch batchItemId =>
      cases operation' with
      | submission clientKey =>
          obtain ⟨i, hi, -, rfl⟩ := h
          exact absurd (hs.itemShaped hi).1 h'.2.2
      | dispatch batchItemId' =>
          obtain ⟨i, hi, rfl, hkey⟩ := h
          obtain ⟨j, hj, rfl, hkey'⟩ := h'
          rw [hs.item_inj hi hj (hkey.symm.trans hkey')]
      | itemReplay _ _ => cases hrecovers
      | jobReplay _ _ => cases hrecovers
  | itemReplay batchItemId replayKey =>
      cases operation' with
      | submission _ => cases hrecovers
      | dispatch _ => cases hrecovers
      | itemReplay batchItemId' replayKey' =>
          have hrest := (joined_inj_first (by decide) (by decide) (h.2.symm.trans h'.2)).2
          obtain ⟨rfl, rfl⟩ := joined_inj_first h.1 h'.1 hrest
          rfl
      | jobReplay sourceJobId replayKey' =>
          have hkind := (joined_inj_first (by decide) (by decide) (h.2.symm.trans h'.2)).1
          exact absurd hkind (by decide)
  | jobReplay sourceJobId replayKey =>
      cases operation' with
      | submission _ => cases hrecovers
      | dispatch _ => cases hrecovers
      | itemReplay batchItemId replayKey' =>
          have hkind := (joined_inj_first (by decide) (by decide) (h.2.symm.trans h'.2)).1
          exact absurd hkind (by decide)
      | jobReplay sourceJobId' replayKey' =>
          have hrest := (joined_inj_first (by decide) (by decide) (h.2.symm.trans h'.2)).2
          obtain ⟨rfl, rfl⟩ := joined_inj_first h.1 h'.1 hrest
          rfl

/-- An operation keeps its key while its item is there. -/
theorem Keyed.later (h : Keyed s operation key)
    (hitems : ∀ i ∈ s.items.rows, ∃ i' ∈ t.items.rows, i.Continues i') :
    Keyed t operation key := by
  cases operation with
  | submission clientKey => exact h
  | dispatch batchItemId =>
      obtain ⟨i, hi, hid, hkey⟩ := h
      obtain ⟨i', hi', hcontinues⟩ := hitems i hi
      refine ⟨i', hi', ?_, ?_⟩
      · rw [hcontinues.item, hid]
      · rw [hcontinues.key, hkey]
  | itemReplay batchItemId replayKey => exact h
  | jobReplay sourceJobId replayKey => exact h

end Keys

section Creations

variable {s : KeyState} {key : String}

/-- A call that is accepted under a key was given that key, up to white space at its edges. -/
theorem normalizedKey_eq_some {c : CreateCall} {k : String} (hk : c.idempotencyKey = some k)
    (h : c.normalizedKey = some key) : key = strip k := by
  unfold CreateCall.normalizedKey at h
  rw [hk] at h
  simp only at h
  split at h
  · cases h
  · exact (Option.some.inj h).symm

theorem recoveryKey_eq_ok {kind recovered : String} {idempotencyKey : Option String}
    (hkind : kind ∈ reservedKinds) (h : recoveryKey kind recovered idempotencyKey = .ok key) :
    key = joined kind (joined recovered (strip (idempotencyKey.getD ""))) ∧ strip key = key := by
  have hstripped : ∀ kind ∈ reservedKinds, strip kind = kind ∧ kind ≠ "" := by decide
  obtain ⟨hself, hne⟩ := hstripped kind hkind
  unfold recoveryKey at h
  split at h
  · cases h
  · rename_i k
    split at h
    · cases h
    · have hkey : key = joined kind (joined recovered (strip k)) := by
        rw [← joined_assoc]
        exact (Except.ok.inj h).symm
      refine ⟨hkey, ?_⟩
      rw [hkey, strip_joined hself hne, rstrip_joined, (stripped_strip k).rstrip_eq]

theorem toOption_eq_some {ε α : Type} {x : Except ε α} {a : α} (h : x.toOption = some a) :
    x = .ok a := by
  cases x with
  | error e => cases h
  | ok b => rw [Option.some.inj h]

theorem dispatchCreation_eq_some {ledger : BatchLedger} {batchItemId : String}
    {callerContext : ReportCallerContext} {generated : Generated} {call : CreateCall}
    (h : dispatchCreation ledger batchItemId callerContext generated = some call) :
    ∃ i ∈ ledger.items.rows, i.batchItemId = batchItemId ∧
      call.idempotencyKey = some i.itemIdempotencyKey := by
  obtain ⟨item, hitem, hfound⟩ := Option.bind_eq_some_iff.mp h
  obtain ⟨batch, -, hbatch⟩ := Option.bind_eq_some_iff.mp hfound
  obtain ⟨token, -, hleased⟩ := Option.bind_eq_some_iff.mp hbatch
  obtain ⟨request, -, hcall⟩ := Option.bind_eq_some_iff.mp hleased
  cases hcall
  obtain ⟨hmem, hid⟩ := (Table.find?_eq_some_iff _ _ _).mp hitem
  exact ⟨item, hmem, hid, rfl⟩

theorem itemReplayCreation_eq_some {pass : ItemReplay} {call : CreateCall}
    (h : itemReplayCreation s pass = some call) :
    ∃ replayKey, batchItemReplayIdempotencyKey pass.batchItemId pass.idempotencyKey =
        .ok replayKey ∧ call.idempotencyKey = some replayKey := by
  obtain ⟨record, -, hrecord⟩ := Option.bind_eq_some_iff.mp h
  obtain ⟨item, -, hitem⟩ := Option.bind_eq_some_iff.mp hrecord
  obtain ⟨replayKey, hkey, hkeyed⟩ := Option.bind_eq_some_iff.mp hitem
  obtain ⟨reportJobId, -, hlinked⟩ := Option.bind_eq_some_iff.mp hkeyed
  obtain ⟨source, -, hsource⟩ := Option.bind_eq_some_iff.mp hlinked
  obtain ⟨eligible, -, heligible⟩ := Option.bind_eq_some_iff.mp hsource
  obtain ⟨request, -, hcall⟩ := Option.bind_eq_some_iff.mp heligible
  refine ⟨replayKey, toOption_eq_some hkey, ?_⟩
  split at hcall
  · cases hcall
    rfl
  · cases hcall

theorem jobReplayCreation_eq_some {pass : JobReplay} {call : CreateCall}
    (h : jobReplayCreation s pass = some call) :
    ∃ replayKey, replayIdempotencyKey pass.jobId pass.idempotencyKey = .ok replayKey ∧
      call.idempotencyKey = some replayKey := by
  obtain ⟨source, hfile, hsource⟩ := Option.bind_eq_some_iff.mp h
  obtain ⟨visible, -, hvisible⟩ := Option.bind_eq_some_iff.mp hsource
  obtain ⟨eligible, -, heligible⟩ := Option.bind_eq_some_iff.mp hvisible
  obtain ⟨replayKey, hkey, hkeyed⟩ := Option.bind_eq_some_iff.mp heligible
  obtain ⟨retained, -, hretained⟩ := Option.bind_eq_some_iff.mp hkeyed
  obtain ⟨request, -, hcall⟩ := Option.bind_eq_some_iff.mp hretained
  rw [Ledger.jobId_of_file? hfile] at hkey
  refine ⟨replayKey, toOption_eq_some hkey, ?_⟩
  have hderived := toOption_eq_some hcall
  unfold createReplayDerivedJob at hderived
  split at hderived
  · cases hderived
  · obtain ⟨admission, -, hlast⟩ := bind_eq_ok.mp hderived
    cases hlast
    rfl

theorem creation_keyed {py : Runtime} {event : KeyEvent} {operation : Operation} {call : CreateCall}
    (hplain : PlainEvent py event) (h : s.creation event = some (operation, call))
    (hkey : call.normalizedKey = some key) : Keyed s.batches operation key := by
  cases event with
  | submit submitted =>
      cases h
      rw [PlainEvent, hkey] at hplain
      rw [hkey]
      exact ⟨rfl, hplain⟩
  | dispatch batchItemId callerContext generated =>
      obtain ⟨found, hfound, heq⟩ := Option.map_eq_some_iff.mp h
      cases heq
      obtain ⟨i, hi, hid, hcall⟩ := dispatchCreation_eq_some hfound
      exact ⟨i, hi, hid, normalizedKey_eq_some hcall hkey⟩
  | replayItem pass =>
      obtain ⟨found, hfound, heq⟩ := Option.map_eq_some_iff.mp h
      cases heq
      obtain ⟨replayKey, hreplay, hcall⟩ := itemReplayCreation_eq_some hfound
      obtain ⟨hjoined, hself⟩ := recoveryKey_eq_ok (by decide) hreplay
      exact ⟨hplain, by rw [normalizedKey_eq_some hcall hkey, hself, hjoined]⟩
  | replayJob pass =>
      obtain ⟨found, hfound, heq⟩ := Option.map_eq_some_iff.mp h
      cases heq
      obtain ⟨replayKey, hreplay, hcall⟩ := jobReplayCreation_eq_some hfound
      obtain ⟨hjoined, hself⟩ := recoveryKey_eq_ok (by decide) hreplay
      exact ⟨hplain, by rw [normalizedKey_eq_some hcall hkey, hself, hjoined]⟩
  | jobs call => cases h
  | batches call => cases h

/-- A client's key without a colon has the shape of no derived key. -/
theorem plain_of_colonFree {py : Runtime} {call : { call : CreateCall // call.replay = none }}
    (h : ColonFree (call.val.normalizedKey.getD "")) : PlainEvent py (.submit call) := by
  constructor
  · exact fun hreserved => h hreserved.1
  · rintro ⟨k, n, p, date, -, hshape⟩
    apply h
    rw [hshape, itemKey_eq_joined, toList_joined]
    simp

end Creations

section Invariant

variable {d : Deployment} {s : KeyState}

/-- The keys of the batch ledger are plain, every resolution has the key of its operation and a
stored row under it, and every stored job was created by a resolution. -/
structure Keeping (s : KeyState) : Prop where
  linked : s.jobs.Linked
  plain : PlainKeys s.batches
  keyed : ∀ r ∈ s.resolutions, Keyed s.batches r.operation r.key
  row : ∀ r ∈ s.resolutions, ∃ f, s.jobs.file? r.jobId = some f ∧
    f.request.identity = (r.tenantId, r.key)
  origin : ∀ jobId f, s.jobs.file? jobId = some f →
    ∃ r ∈ s.resolutions, r.created = true ∧ r.jobId = jobId

theorem keeping_empty : Keeping .empty := by
  refine ⟨Ledger.linked_empty, plainKeys_empty, ?_, ?_, ?_⟩
  · intro r hr
    cases hr
  · intro r hr
    cases hr
  · intro jobId f hf
    cases hf

/-- In a state that keeps its keys the operations resolved apart. -/
theorem Keeping.keysApart (hs : Keeping s) : KeysApart s := by
  have hapart : ∀ r ∈ s.resolutions, ∀ r' ∈ s.resolutions, r.key = r'.key →
      r.operation = r'.operation := by
    intro r hr r' hr' hkey
    have hkeyed' := hs.keyed r' hr'
    rw [← hkey] at hkeyed'
    exact (hs.keyed r hr).inj hs.plain hkeyed'
  refine ⟨hs.row, fun r hr r' hr' _ hkey => hapart r hr r' hr' hkey, ?_⟩
  intro r hr sourceJobId replayKey hoperation
  obtain ⟨f, hf, hidentity⟩ := hs.row r hr
  obtain ⟨r', hr', hcreated, hjob⟩ := hs.origin r.jobId f hf
  obtain ⟨f', hf', hidentity'⟩ := hs.row r' hr'
  rw [hjob, hf] at hf'
  cases hf'
  -- the resolution that created the job has the same row, hence the same operation
  have hkey : r'.key = r.key := congrArg Prod.snd (hidentity'.symm.trans hidentity)
  refine ⟨r', hr', hcreated, hjob, replayKey, ?_⟩
  rw [hapart r' hr' r hr hkey, hoperation]

/-- A job goes on under the same request, and no job appears. -/
theorem file_of_besidesCreation {jobs : Jobs.Ledger} {call : Call} (hs : jobs.Linked)
    (hcall : besidesCreation call = true) {jobId : String} {f' : JobFile}
    (hf' : (jobs.step d call).file? jobId = some f') : ∃ f, jobs.file? jobId = some f := by
  rcases Ledger.step_cases d jobs call hs with hsame | hperformed
  · rw [hsame] at hf'
    exact ⟨f', hf'⟩
  · generalize jobs.step d call = t at hperformed hf'
    cases hperformed with
    | changed h =>
        rcases h.file jobId with ⟨-, hnone⟩ | ⟨f, -, hf, -, -⟩
        · rw [hf'] at hnone
          cases hnone
        · exact ⟨f, hf⟩
    | accepted h => cases hcall
    | related => exact ⟨f', hf'⟩

theorem Keeping.jobs (hs : Keeping s) (call : Call) (hcall : besidesCreation call = true) :
    Keeping { s with jobs := s.jobs.step d call } := by
  refine ⟨Ledger.linked_step d s.jobs call hs.linked, hs.plain, hs.keyed, ?_, ?_⟩
  · intro r hr
    obtain ⟨f, hf, hidentity⟩ := hs.row r hr
    obtain ⟨f', hf', hrun⟩ := Ledger.step_file (d := d) hs.linked call hf
    exact ⟨f', hf', by rw [hrun.request_eq, hidentity]⟩
  · intro jobId f' hf'
    obtain ⟨f, hf⟩ := file_of_besidesCreation hs.linked hcall hf'
    exact hs.origin jobId f hf

theorem Keeping.batches (hs : Keeping s) {call : BatchCall}
    (hcall : PlainCreation d.toRuntime call) :
    Keeping { s with batches := Batch.step d.toRuntime s.batches call } := by
  refine ⟨hs.linked, hs.plain.step hcall, ?_, hs.row, hs.origin⟩
  intro r hr
  exact (hs.keyed r hr).later fun i hi => step_item_continues d.toRuntime call hi

/-- What a creation does to the files: every file goes on, and a new one is the returned one. -/
theorem createReportJob_files {jobs jobs' : Jobs.Ledger} {call : CreateCall} {record : JobFile}
    (hs : jobs.Linked) (h : jobs.createReportJob d call = .ok (record, jobs')) :
    jobs'.Linked ∧
      (∀ jobId f, jobs.file? jobId = some f → ∃ f', jobs'.file? jobId = some f' ∧
        f'.request.identity = f.request.identity) ∧
      ∀ jobId f', jobs'.file? jobId = some f' → (∃ f, jobs.file? jobId = some f) ∨
        jobId = record.job.reportJobId ∧ jobs.jobs.find? jobId = none := by
  rcases Ledger.createReportJob_eq_ok hs h with ⟨sub, existing, hsub, hlookup, hexisting⟩ |
    ⟨sub, source, f, haccepts⟩
  · obtain ⟨hload, -, -, rfl⟩ := Ledger.acceptExisting_eq_ok hexisting
    have hchanges := Ledger.ensureWorkItem_changes call (Ledger.loadByRequestId_eq_some hload).1
    refine ⟨hchanges.linked hs, fun jobId f hf => ?_, fun jobId f' hf' => ?_⟩
    · obtain ⟨f', hf', hrun⟩ := hchanges.file_run hf
      exact ⟨f', hf', by rw [hrun.request_eq]⟩
    · rcases hchanges.file jobId with ⟨-, hnone⟩ | ⟨f, -, hf, -, -⟩
      · rw [hf'] at hnone
        cases hnone
      · exact Or.inl ⟨f, hf⟩
  · have hid : record.job.reportJobId = call.jobId := by
      rw [createReportJob_of_novel haccepts.submitted haccepts.novel] at h
      exact (acceptNew_record h).1
    refine ⟨haccepts.linked, fun jobId f₀ hf₀ => ⟨f₀, ?_, rfl⟩, fun jobId f' hf' => ?_⟩
    · rw [haccepts.files, if_neg, hf₀]
      rintro rfl
      have hknown := (Ledger.file?_eq_some_iff.mp hf₀).1
      rw [haccepts.fresh] at hknown
      cases hknown
    · rw [haccepts.files] at hf'
      split at hf'
      · rename_i hsame
        subst hsame
        exact Or.inr ⟨hid.symm, haccepts.fresh⟩
      · exact Or.inl ⟨f', hf'⟩

/-- A creation under the key of its operation keeps the keys. -/
theorem Keeping.create (hs : Keeping s) {operation : Operation} {call : CreateCall}
    (hkeyed : ∀ key, call.normalizedKey = some key → Keyed s.batches operation key) :
    Keeping (s.create d operation call) := by
  unfold KeyState.create
  cases hcreate : s.jobs.createReportJob d call with
  | error error => exact hs
  | ok result =>
      obtain ⟨record, jobs⟩ := result
      obtain ⟨hlinked, hgoes, hcomes⟩ := createReportJob_files hs.linked hcreate
      obtain ⟨sub, f, hsub, hf, hidentity⟩ := createReportJob_file hs.linked hcreate
      have hkey := (submission_eq_ok hsub).key
      refine ⟨hlinked, hs.plain, fun r hr => ?_, fun r hr => ?_, fun jobId f' hf' => ?_⟩
      · rcases List.mem_append.mp hr with hr | hr
        · exact hs.keyed r hr
        · rw [List.mem_singleton.mp hr, hkey]
          exact hkeyed sub.key hkey
      · rcases List.mem_append.mp hr with hr | hr
        · obtain ⟨f₀, hf₀, hidentity₀⟩ := hs.row r hr
          obtain ⟨f', hf', hsame⟩ := hgoes r.jobId f₀ hf₀
          exact ⟨f', hf', hsame.trans hidentity₀⟩
        · rw [List.mem_singleton.mp hr, hkey]
          exact ⟨f, hf, hidentity⟩
      · rcases hcomes jobId f' hf' with ⟨f₀, hf₀⟩ | ⟨rfl, hfresh⟩
        · obtain ⟨r, hr, hcreated, hjob⟩ := hs.origin jobId f₀ hf₀
          exact ⟨r, List.mem_append_left _ hr, hcreated, hjob⟩
        · exact ⟨_, List.mem_append_right _ List.mem_cons_self, by simp [hfresh], rfl⟩

theorem Keeping.step (hs : Keeping s) {event : KeyEvent}
    (hplain : PlainEvent d.toRuntime event) : Keeping (s.step d event) := by
  have hcreation : Keeping (match s.creation event with
      | some (operation, call) => s.create d operation call
      | none => s) := by
    cases h : s.creation event with
    | none => exact hs
    | some asked =>
        obtain ⟨operation, call⟩ := asked
        exact hs.create fun key hkey => creation_keyed hplain h hkey
  cases event with
  | submit call => exact hcreation
  | dispatch batchItemId callerContext generated => exact hcreation
  | replayItem pass => exact hcreation
  | replayJob pass => exact hcreation
  | jobs call => exact hs.jobs call.val call.property
  | batches call => exact hs.batches hplain

theorem Keeping.createsApart (hs : Keeping s) {event : KeyEvent}
    (hplain : PlainEvent d.toRuntime event) : CreatesApart d.toRuntime s event := by
  cases event with
  | batches call => exact hs.plain.clashFree hplain
  | _ => trivial

theorem keeping_run {events : List KeyEvent} (hplain : ∀ e ∈ events, PlainEvent d.toRuntime e) :
    Keeping (run (KeyState.step d) .empty events) :=
  run_invariant (P := fun _ e => PlainEvent d.toRuntime e) (fun _ _ hs he => hs.step he)
    keeping_empty (along_of_forall fun e he _ => hplain e he)

/-- In a run of plain events different operations never resolve to one row, a replay returns a job
that a replay of the same source created, and batches with different keys do not clash on the key of
an item. -/
theorem derivedKeysApart_of_plain (d : Deployment) {events : List KeyEvent}
    (hplain : ∀ e ∈ events, PlainEvent d.toRuntime e) : DerivedKeysApart d events := by
  constructor
  · intro n
    exact (keeping_run fun e he => hplain e (List.mem_of_mem_take he)).keysApart
  · rw [along_iff]
    rintro before e after rfl
    have hbefore : Keeping (run (KeyState.step d) .empty before) :=
      keeping_run fun e he => hplain e (List.mem_append_left _ he)
    exact hbefore.createsApart (hplain e (List.mem_append_right _ List.mem_cons_self))

end Invariant

section Sample

/-- A direct submission under a client's key. -/
def sampleSubmission (n clientKey : String) : KeyEvent :=
  .submit ⟨submitPortfolioReviewJob Jobs.sampleCaller (some clientKey) (sampleGenerated n)
    sampleRequest, rfl⟩

/-- A job is submitted under a client's key and fails. -/
def sampleFailure : List KeyEvent :=
  [ sampleSubmission "1" "key-1",
    .jobs ⟨.ledger (.mark "rjob_1" .collectingData sampleOperator), rfl⟩,
    .jobs ⟨.ledger (.mark "rjob_1" (.failed .renderExecutionFailed "render failed" true)
      sampleOperator), rfl⟩ ]

/-- The replay of the failed job under the caller's key `retry`. -/
def sampleReplay : KeyEvent :=
  .replayJob
    { jobId := "rjob_1"
      reason := "Retry job."
      callerContext := Jobs.sampleCaller
      idempotencyKey := some "retry"
      generated := sampleGenerated "3"
      services :=
        { archiveResolver := none
          snapshotStore := none
          compositeArchiveCustody := fun _ _ => .error cannotBeReplayed
          coercions := Coercions.standard
          compositeReplayRequest := fun _ => .error cannotBeReplayed
          clonedSnapshotId := fun _ => "snap_2" }
      clock := fun _ => 4000000 }

/-- A failed job is replayed, and the item of a batch is dispatched. -/
def recoveredRun : List KeyEvent :=
  sampleFailure ++
  [ sampleReplay,
    .batches (sampleBatch ["PF_1"]),
    .batches (.acquireDispatchItems "rbch_1" "worker-1" 60 10 "lease_1" 1000000),
    .dispatch "rbit_1" Batch.sampleCaller (sampleGenerated "4") ]

/-- A client submits a job under the key that the replay of the failed job derives. -/
def anticipatedRun : List KeyEvent :=
  sampleFailure ++ [sampleSubmission "2" "replay:rjob_1:retry", sampleReplay]

/-- The creation of a batch with one item under a client's key. -/
def sampleItemBatch (clientKey portfolioId batchId : String) : KeyEvent :=
  .batches (.createBatch
    { selectorMode := .explicitPortfolioList
      portfolioIds := [portfolioId]
      sourceCandidates :=
        [{ portfolioId := portfolioId, tenantId := "tenant-sg", region := "APAC", active := true }]
      asOfDate := "2026-04-22" }
    Batch.sampleCaller (some clientKey) batchId (fun n => batchId ++ "_" ++ toString n) 0)

/-- Two batches whose keys and portfolios join to one item key. -/
def clashingRun : List KeyEvent :=
  [ sampleItemBatch "month" "end:2026-04-22:1:PF_1" "rbch_1",
    sampleItemBatch "month:2026-04-22:1:end" "PF_1" "rbch_2" ]

theorem plain_sampleBatch : PlainEvent verbatimDeployment.toRuntime
    (.batches (sampleBatch ["PF_1"])) := by
  refine ⟨by decide, ⟨⟨2026, 4, 22⟩, by decide⟩, ?_⟩
  intro materialized hm portfolio hportfolio
  cases hm
  rw [List.mem_singleton.mp hportfolio]
  decide

end Sample

theorem derivedKeysApart_recovered :
    (run (KeyState.step verbatimDeployment) .empty recoveredRun).resolutions.map
        (fun r => (r.operation, r.jobId)) =
      [ (.submission "key-1", "rjob_1"),
        (.jobReplay "rjob_1" "retry", "rjob_3"),
        (.dispatch "rbit_1", "rjob_4") ] ∧
    DerivedKeysApart verbatimDeployment recoveredRun := by
  refine ⟨by decide +kernel, derivedKeysApart_of_plain verbatimDeployment ?_⟩
  simp only [recoveredRun, sampleFailure, List.cons_append, List.nil_append, List.forall_mem_cons]
  exact ⟨plain_of_colonFree (by decide), trivial, trivial,
    show ColonFree "rjob_1" by decide, plain_sampleBatch, trivial, trivial, by simp⟩

/-- A client's key that reads as a replay's makes the replay of a failed job return the client's
job; and a portfolio with colons in its name makes two batches with different keys clash. -/
theorem derived_keys_collide :
    (run (KeyState.step verbatimDeployment) .empty anticipatedRun).resolutions.map
        (fun r => (r.operation, r.key, r.jobId)) =
      [ (.submission "key-1", "key-1", "rjob_1"),
        (.submission "replay:rjob_1:retry", "replay:rjob_1:retry", "rjob_2"),
        (.jobReplay "rjob_1" "retry", "replay:rjob_1:retry", "rjob_2") ] ∧
    ¬ DerivedKeysApart verbatimDeployment anticipatedRun ∧
    ¬ DerivedKeysApart verbatimDeployment clashingRun := by
  refine ⟨by decide +kernel, fun h => ?_, fun h => ?_⟩
  · have happart := (h.1 5).apart
      ⟨.submission "replay:rjob_1:retry", "tenant-1", "replay:rjob_1:retry", "rjob_2", true⟩
      (by decide +kernel)
      ⟨.jobReplay "rjob_1" "retry", "tenant-1", "replay:rjob_1:retry", "rjob_2", false⟩
      (by decide +kernel) rfl rfl
    cases happart
  · have hclash := (along_iff.mp h.2 [sampleItemBatch "month" "end:2026-04-22:1:PF_1" "rbch_1"]
      (sampleItemBatch "month:2026-04-22:1:end" "PF_1" "rbch_2") [] rfl)
      [⟨"PF_1", "lotus-core", "PortfolioScope"⟩] (by decide +kernel) (by decide +kernel)
    apply hclash
    unfold BatchLedger.HoldsItemKey
    decide +kernel

end LotusReport.Replay
