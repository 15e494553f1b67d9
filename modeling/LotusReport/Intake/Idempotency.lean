import LotusReport.Intake.Ledger

/-!
# Idempotence of the intake ledgers

The calls of a run are followed at a desk: each call has looked nothing up yet,
has found no record, has met a record of another call in its insert, or has
ended. Where the database takes every text, a ledger does what the desk does,
whichever exceptions it catches besides the unique violation.
-/

namespace LotusReport.Intake

open Encoding StateMachine

section Desk

variable (py : Runtime)

/-- How far a call has come. -/
inductive Stage where
  | new
  | missed
  | clashed
  | ended (outcome : Outcome)

/-- A ledger with the calls under way. -/
structure Desk where
  ledger : Ledger
  calls : List (AcceptCall × Stage)

/-- What the ledger answers under the key of a call. -/
def answered (ledger : Ledger) (call : AcceptCall) (absent : Stage) : Stage :=
  match ledger.find call.key with
  | some row => .ended (answer (payloadFingerprintOf py call.request) row.toIntakeRecord)
  | none => absent

/-- The next step of a call. -/
def stageStep (ledger : Ledger) (call : AcceptCall) : Stage → Ledger × Stage
  | .new => (ledger, answered py ledger call .missed)
  | .missed =>
      match ledger.insert? (newRow py call) with
      | none => (ledger, .clashed)
      | some stored => (stored, .ended (.ok (newRow py call).response))
  | .clashed => (ledger, answered py ledger call (.ended (.error .conflict)))
  | .ended outcome => (ledger, .ended outcome)

/-- A call arrives or makes its next step. -/
def Desk.step (d : Desk) : Event AcceptCall → Desk
  | .start call => { d with calls := d.calls ++ [(call, .new)] }
  | .advance n =>
      match d.calls[n]? with
      | some (call, stage) =>
          ⟨(stageStep py d.ledger call stage).1,
            d.calls.set n (call, (stageStep py d.ledger call stage).2)⟩
      | none => d

/-- The desk after a run. -/
def deskAfter (ledger : Ledger) (events : List (Event AcceptCall)) : Desk :=
  run (Desk.step py) ⟨ledger, []⟩ events

/-- The program of a call that has come to a stage. -/
def stageProgram (caught : StoreError → Bool) (call : AcceptCall) : Stage → Accepting
  | .new => acceptWith py caught call
  | .missed => storeRecord py caught call
  | .clashed => resolveClash py call
  | .ended outcome => .done outcome

end Desk

section Refinement

variable {py : Runtime} {engine : Engine} {caught : StoreError → Bool} {ledger : Ledger}
  {events : List (Event AcceptCall)} {call : AcceptCall}

variable (py engine call) in
/-- The database takes the texts that the call looks up and the row that it stores. -/
def Taken : Prop :=
  engine.binds call.tenantId = true ∧ engine.binds call.idempotencyKey = true ∧
    engine.takes (newRow py call) = true

instance : Decidable (Taken py engine call) := inferInstanceAs (Decidable (_ ∧ _ ∧ _))

theorem perform_select (htaken : Taken py engine call) :
    engine.perform ledger (.select call.key.1 call.key.2) = (ledger, .ok (ledger.find call.key)) := by
  simp only [Engine.perform, AcceptCall.key, htaken.1, htaken.2.1, Bool.and_self]
  rfl

/-- A ledger that catches the unique violation does at every stage what the desk does. -/
theorem advance_stageProgram (hcaught : caught .uniqueViolation = true)
    (htaken : Taken py engine call) (stage : Stage) :
    (stageProgram py caught call stage).advance engine.perform ledger =
      ((stageStep py ledger call stage).1,
        stageProgram py caught call (stageStep py ledger call stage).2) := by
  cases stage with
  | new =>
      simp only [stageProgram, acceptWith, getRecord, Program.advance, perform_select htaken, stageStep,
        answered]
      cases ledger.find call.key with
      | none => rfl
      | some row => rfl
  | missed =>
      simp only [stageProgram, storeRecord, Program.advance, stageStep, Engine.perform, htaken.2.2, if_true]
      cases ledger.insert? (newRow py call) with
      | none => simp only [hcaught, if_true]
      | some stored => rfl
  | clashed =>
      simp only [stageProgram, resolveClash, getRecord, Program.advance, perform_select htaken, stageStep, answered]
      cases ledger.find call.key with
      | none => rfl
      | some row =>
          simp only [Option.map_some, answer]
          have hfingerprint : (buildIntakeRecord py call).payloadFingerprint =
              payloadFingerprintOf py call.request := rfl
          rw [hfingerprint]
          by_cases h : row.payloadFingerprint = payloadFingerprintOf py call.request
          · rw [if_pos h, if_neg (not_not_intro h)]
          · rw [if_neg h, if_pos h]
  | ended outcome => rfl

theorem deskAfter_snoc {e : Event AcceptCall} :
    deskAfter py ledger (events ++ [e]) = (deskAfter py ledger events).step py e :=
  run_append _ _ _ _

theorem map_fst_deskAfter (py : Runtime) (ledger : Ledger) (events : List (Event AcceptCall)) :
    (deskAfter py ledger events).calls.map Prod.fst = started events := by
  induction events using List.reverseRecOn with
  | nil => rfl
  | append_singleton events e ih =>
      rw [deskAfter_snoc, started_append, ← ih]
      cases e with
      | start call => simp [Desk.step, started]
      | advance n =>
          cases hn : (deskAfter py ledger events).calls[n]? with
          | none => simp [Desk.step, hn, started]
          | some entry =>
              have hfst : ((deskAfter py ledger events).calls.map Prod.fst)[n]? = some entry.1 := by
                rw [List.getElem?_map, hn]
                rfl
              obtain ⟨hlt, hget⟩ := List.getElem?_eq_some_iff.mp hfst
              simp only [Desk.step, hn, started, List.append_nil, List.map_set]
              rw [← hget, List.set_getElem_self]

theorem reached_eq (hcaught : caught .uniqueViolation = true)
    (htaken : ∀ call ∈ started events, Taken py engine call) :
    System.reached engine.perform (acceptWith py caught) ledger events =
      ⟨(deskAfter py ledger events).ledger,
        (deskAfter py ledger events).calls.map fun c => stageProgram py caught c.1 c.2⟩ := by
  induction events using List.reverseRecOn with
  | nil => rfl
  | append_singleton events e ih =>
      rw [started_append] at htaken
      have ih := ih fun call hcall => htaken call (List.mem_append_left _ hcall)
      rw [System.reached_snoc, deskAfter_snoc, ih]
      cases e with
      | start call => simp [System.step, Desk.step, stageProgram]
      | advance n =>
          cases hn : (deskAfter py ledger events).calls[n]? with
          | none => simp [System.step, Desk.step, hn]
          | some entry =>
              have hcall : entry.1 ∈ started events := by
                rw [← map_fst_deskAfter py ledger events]
                exact List.mem_map_of_mem (List.mem_of_getElem? hn)
              have hstage := fun ledger : Ledger => @advance_stageProgram py engine caught ledger
                entry.1 hcaught (htaken entry.1 (List.mem_append_left _ hcall)) entry.2
              rw [System.step_advance (p := stageProgram py caught entry.1 entry.2)
                (by rw [List.getElem?_map, hn]; rfl)]
              dsimp only
              rw [hstage]
              simp only [Desk.step, hn, List.map_set]

end Refinement

section Steps

variable {py : Runtime} {ledger : Ledger} {call : AcceptCall} {stage : Stage}

theorem find_eq_none {key : String × String} :
    ledger.find key = none ↔ key ∉ ledger.rows.map IntakeRow.key := by
  simp [Ledger.find]

theorem mem_of_find {key : String × String} {row : IntakeRow} (h : ledger.find key = some row) :
    row ∈ ledger.rows ∧ row.key = key :=
  ⟨List.mem_of_find?_eq_some h, by simpa using List.find?_some h⟩

variable (py ledger call) in
/-- What the ledger holds for a call that has come to a stage. -/
def Backed : Stage → Prop
  | .new => True
  | .missed => True
  | .clashed => call.key ∈ ledger.rows.map IntakeRow.key
  | .ended outcome => ∃ row ∈ ledger.rows, row.key = call.key ∧
      outcome = answer (payloadFingerprintOf py call.request) row.toIntakeRecord

theorem Backed.mono {later : Ledger} (h : Backed py ledger call stage)
    (hlater : ledger.rows ⊆ later.rows) : Backed py later call stage := by
  cases stage with
  | new => trivial
  | missed => trivial
  | clashed => exact List.map_subset _ hlater h
  | ended outcome =>
      obtain ⟨row, hrow, hbacked⟩ := h
      exact ⟨row, hlater hrow, hbacked⟩

/-- A step writes nothing, or it stores the row of its call and ends with its response. -/
theorem stageStep_rows (py : Runtime) (ledger : Ledger) (call : AcceptCall) (stage : Stage) :
    (stageStep py ledger call stage).1 = ledger ∨
      (stageStep py ledger call stage).1.rows = ledger.rows ++ [newRow py call] ∧
        (stageStep py ledger call stage).2 = .ended (.ok (newRow py call).response) := by
  cases stage with
  | new => exact .inl rfl
  | missed =>
      by_cases hkey : (newRow py call).key ∈ ledger.rows.map IntakeRow.key
      · exact .inl (by simp only [stageStep, Ledger.insert?, dif_pos hkey])
      · exact .inr (by simp only [stageStep, Ledger.insert?, dif_neg hkey, Ledger.add, and_self])
  | clashed => exact .inl rfl
  | ended outcome => exact .inl rfl

theorem subset_stageStep : ledger.rows ⊆ (stageStep py ledger call stage).1.rows := by
  rcases stageStep_rows py ledger call stage with h | ⟨h, -⟩
  · rw [h]
    exact List.Subset.refl _
  · rw [h]
    exact List.subset_append_left _ _

/-- A record that stands under the key of a call decides the call. -/
theorem backed_answered {absent : Stage} (habsent : ledger.find call.key = none →
    Backed py ledger call absent) : Backed py ledger call (answered py ledger call absent) := by
  unfold answered
  cases hfind : ledger.find call.key with
  | none => exact habsent hfind
  | some row =>
      obtain ⟨hrow, hkey⟩ := mem_of_find hfind
      exact ⟨row, hrow, hkey, rfl⟩

theorem Backed.step (h : Backed py ledger call stage) :
    Backed py (stageStep py ledger call stage).1 call (stageStep py ledger call stage).2 := by
  cases stage with
  | new => exact backed_answered fun _ => trivial
  | missed =>
      by_cases hkey : (newRow py call).key ∈ ledger.rows.map IntakeRow.key
      · simp only [stageStep, Ledger.insert?, dif_pos hkey]
        exact hkey
      · simp only [stageStep, Ledger.insert?, dif_neg hkey]
        refine ⟨newRow py call, List.mem_append_right _ (List.mem_singleton_self _), rfl, ?_⟩
        rw [answer, payloadFingerprint_newRow, if_neg (not_not_intro rfl)]
  | clashed => exact backed_answered fun habsent => absurd h (find_eq_none.mp habsent)
  | ended outcome => exact h

/-- What a run leaves at the desk: the rows of before, the rows of calls that returned their
response, and for every call what the ledger holds for it. -/
structure Accounted (py : Runtime) (initial : Ledger) (d : Desk) : Prop where
  kept : initial.rows <+: d.ledger.rows
  first : ∀ row ∈ d.ledger.rows, row ∈ initial.rows ∨
    ∃ (n : Nat) (call : AcceptCall),
      d.calls[n]? = some (call, .ended (.ok row.response)) ∧ row = newRow py call
  backed : ∀ entry ∈ d.calls, Backed py d.ledger entry.1 entry.2

variable {initial : Ledger} {d : Desk}

theorem ended_step {n : Nat} {outcome : Outcome} (h : d.calls[n]? = some (call, .ended outcome))
    (e : Event AcceptCall) : (d.step py e).calls[n]? = some (call, .ended outcome) := by
  have hlt := (List.getElem?_eq_some_iff.mp h).1
  cases e with
  | start other =>
      rw [Desk.step, List.getElem?_append_left hlt]
      exact h
  | advance m =>
      cases hm : d.calls[m]? with
      | none => simpa only [Desk.step, hm] using h
      | some entry =>
          simp only [Desk.step, hm]
          by_cases hne : m = n
          · subst hne
            rw [hm] at h
            cases h
            exact List.getElem?_set_self hlt
          · rw [List.getElem?_set_ne hne]
            exact h

theorem Accounted.step (h : Accounted py initial d) (e : Event AcceptCall) :
    Accounted py initial (d.step py e) := by
  cases e with
  | start call =>
      refine ⟨h.kept, fun row hrow => ?_, fun entry hentry => ?_⟩
      · apply (h.first row hrow).imp_right
        rintro ⟨n, first, hfirst, hnew⟩
        exact ⟨n, first, ended_step hfirst (.start call), hnew⟩
      · rcases List.mem_append.mp hentry with hentry | hentry
        · exact h.backed entry hentry
        · cases List.mem_singleton.mp hentry
          trivial
  | advance n =>
      cases hn : d.calls[n]? with
      | none => simpa only [Desk.step, hn] using h
      | some entry =>
          have hstays : ∀ {m : Nat} {call : AcceptCall} {outcome : Outcome},
              d.calls[m]? = some (call, .ended outcome) →
                (d.step py (.advance n)).calls[m]? = some (call, .ended outcome) :=
            fun hm => ended_step hm (.advance n)
          simp only [Desk.step, hn] at hstays ⊢
          have hgrows : d.ledger.rows ⊆ (stageStep py d.ledger entry.1 entry.2).1.rows :=
            subset_stageStep
          refine ⟨?_, fun row hrow => ?_, fun other hother => ?_⟩
          · rcases stageStep_rows py d.ledger entry.1 entry.2 with hrows | ⟨hrows, -⟩
            · rw [hrows]
              exact h.kept
            · rw [hrows]
              exact h.kept.trans (List.prefix_append _ _)
          · have hold : row ∈ d.ledger.rows → row ∈ initial.rows ∨ ∃ (m : Nat) (call : AcceptCall),
                (d.calls.set n (entry.1, (stageStep py d.ledger entry.1 entry.2).2))[m]? =
                  some (call, .ended (.ok row.response)) ∧ row = newRow py call := by
              intro hrow
              apply (h.first row hrow).imp_right
              rintro ⟨m, call, hm, hnew⟩
              exact ⟨m, call, hstays hm, hnew⟩
            rcases stageStep_rows py d.ledger entry.1 entry.2 with hrows | ⟨hrows, hstage⟩
            · rw [hrows] at hrow
              exact hold hrow
            · rw [hrows] at hrow
              rcases List.mem_append.mp hrow with hrow | hrow
              · exact hold hrow
              · cases List.mem_singleton.mp hrow
                right
                refine ⟨n, entry.1, ?_, rfl⟩
                rw [List.getElem?_set_self (List.getElem?_eq_some_iff.mp hn).1, hstage]
          · rcases List.mem_or_eq_of_mem_set hother with hother | rfl
            · exact (h.backed other hother).mono hgrows
            · exact (h.backed entry (List.mem_of_getElem? hn)).step

theorem accounted_deskAfter (py : Runtime) (ledger : Ledger) (events : List (Event AcceptCall)) :
    Accounted py ledger (deskAfter py ledger events) := by
  refine run_induction (I := Accounted py ledger) (fun d e hd => hd.step e) ?_ events
  exact ⟨List.prefix_rfl, fun _ hrow => .inl hrow, fun _ hentry => absurd hentry List.not_mem_nil⟩

end Steps

section Tenants

variable {py : Runtime} {engine : Engine} {caught : StoreError → Bool} {ledger : Ledger}
  {tenant : String}

/-- The rows of a tenant. -/
def Ledger.ofTenant (tenant : String) (ledger : Ledger) : List IntakeRow :=
  ledger.rows.filter fun row => row.tenantId = tenant

/-- The tenant that a statement is about. -/
def LedgerOp.tenantId : LedgerOp → String
  | .select tenantId _ => tenantId
  | .insert row => row.tenantId

theorem find_ofTenant {key : String × String} (htenant : key.1 = tenant) :
    ledger.find key = (ledger.ofTenant tenant).find? fun row => row.key = key := by
  unfold Ledger.find Ledger.ofTenant
  rw [List.find?_filter]
  congr 1
  funext row
  by_cases h : row.key = key
  · have hrow : row.tenantId = tenant := htenant ▸ congrArg Prod.fst h
    simp [h, hrow]
  · simp [h]

theorem key_mem_ofTenant {key : String × String} (htenant : key.1 = tenant) :
    key ∈ ledger.rows.map IntakeRow.key ↔ key ∈ (ledger.ofTenant tenant).map IntakeRow.key := by
  simp only [Ledger.ofTenant, List.mem_map, List.mem_filter, decide_eq_true_eq]
  constructor
  · rintro ⟨row, hrow, rfl⟩
    exact ⟨row, ⟨hrow, htenant⟩, rfl⟩
  · rintro ⟨row, ⟨hrow, -⟩, rfl⟩
    exact ⟨row, hrow, rfl⟩

theorem ofTenant_add {row : IntakeRow} (h : row.key ∉ ledger.rows.map IntakeRow.key) :
    (ledger.add row h).ofTenant tenant =
      ledger.ofTenant tenant ++ if row.tenantId = tenant then [row] else [] := by
  simp only [Ledger.ofTenant, Ledger.add, List.filter_append, List.filter_singleton,
    Bool.cond_decide]

theorem perform_insert_refused {row : IntakeRow} (htakes : engine.takes row = false) :
    engine.perform ledger (.insert row) = (ledger, .error .dataError) := by
  simp only [Engine.perform, htakes, Bool.false_eq_true, if_false]

theorem perform_insert_clash {row : IntakeRow} (htakes : engine.takes row = true)
    (h : row.key ∈ ledger.rows.map IntakeRow.key) :
    engine.perform ledger (.insert row) = (ledger, .error .uniqueViolation) := by
  simp only [Engine.perform, Ledger.insert?, htakes, if_true, dif_pos h]

theorem perform_insert_new {row : IntakeRow} (htakes : engine.takes row = true)
    (h : row.key ∉ ledger.rows.map IntakeRow.key) :
    engine.perform ledger (.insert row) = (ledger.add row h, .ok ()) := by
  simp only [Engine.perform, Ledger.insert?, htakes, if_true, dif_neg h]

/-- A statement of a tenant depends on the rows of the tenant only. -/
theorem perform_ofTenant {op : LedgerOp} {s t : Ledger} (htenant : op.tenantId = tenant)
    (hview : s.ofTenant tenant = t.ofTenant tenant) :
    (engine.perform s op).2 = (engine.perform t op).2 ∧
      (engine.perform s op).1.ofTenant tenant = (engine.perform t op).1.ofTenant tenant := by
  cases op with
  | select tenantId idempotencyKey =>
      have hfind : s.find (tenantId, idempotencyKey) = t.find (tenantId, idempotencyKey) := by
        rw [find_ofTenant htenant, find_ofTenant htenant, hview]
      simp only [Engine.perform, hfind]
      exact ⟨trivial, hview⟩
  | insert row =>
      have hkey : row.key ∈ s.rows.map IntakeRow.key ↔ row.key ∈ t.rows.map IntakeRow.key := by
        rw [key_mem_ofTenant htenant, key_mem_ofTenant htenant, hview]
      cases htakes : engine.takes row with
      | false =>
          rw [perform_insert_refused htakes, perform_insert_refused htakes]
          exact ⟨rfl, hview⟩
      | true =>
          by_cases h : row.key ∈ s.rows.map IntakeRow.key
          · rw [perform_insert_clash htakes h, perform_insert_clash htakes (hkey.mp h)]
            exact ⟨rfl, hview⟩
          · have h' := mt hkey.mpr h
            rw [perform_insert_new htakes h, perform_insert_new htakes h']
            refine ⟨rfl, ?_⟩
            rw [ofTenant_add, ofTenant_add, hview]

/-- A statement reads and writes the rows of its tenant. -/
theorem separates_tenant (engine : Engine) (tenant : String) :
    System.Separates engine.perform (Ledger.ofTenant tenant) fun op => op.tenantId = tenant where
  result htenant hview := (perform_ofTenant htenant hview).1
  inside htenant hview := (perform_ofTenant htenant hview).2
  outside := by
    intro op s htenant
    cases op with
    | select tenantId idempotencyKey => rfl
    | insert row =>
        cases htakes : engine.takes row with
        | false => rw [perform_insert_refused htakes]
        | true =>
            by_cases h : row.key ∈ s.rows.map IntakeRow.key
            · rw [perform_insert_clash htakes h]
            · rw [perform_insert_new htakes h]
              have hother : row.tenantId ≠ tenant := htenant
              rw [ofTenant_add, if_neg hother, List.append_nil]

theorem calls_getRecord {P : LedgerOp → Prop} {key : String × String}
    {next : Option IntakeRecord → Accepting} (hselect : P (.select key.1 key.2))
    (hnext : ∀ record, (next record).Calls P) : (getRecord key next).Calls P := by
  refine ⟨hselect, fun found => ?_⟩
  cases found with
  | error e => trivial
  | ok row => exact hnext _

theorem calls_acceptWith {P : LedgerOp → Prop} {call : AcceptCall}
    (hselect : P (.select call.tenantId call.idempotencyKey)) (hinsert : P (.insert (newRow py call))) :
    (acceptWith py caught call).Calls P := by
  apply calls_getRecord hselect
  intro existing
  cases existing with
  | some existing => trivial
  | none =>
      refine ⟨hinsert, fun stored => ?_⟩
      cases stored with
      | ok stored => trivial
      | error e =>
          dsimp only
          split
          · apply calls_getRecord hselect
            intro existing
            split
            · split <;> trivial
            · trivial
          · trivial

theorem within_getRecord {k : Nat} {key : String × String}
    {next : Option IntakeRecord → Accepting} (hnext : ∀ record, System.Within k (next record)) :
    System.Within (k + 1) (getRecord key next) := by
  intro found
  cases found with
  | error e => cases k <;> trivial
  | ok row => exact hnext _

/-- A call makes at most three statements. -/
theorem within_acceptWith (call : AcceptCall) : System.Within 3 (acceptWith py caught call) := by
  apply within_getRecord
  intro existing
  cases existing with
  | some existing => trivial
  | none =>
      intro stored
      cases stored with
      | ok stored => trivial
      | error e =>
          dsimp only
          split
          · apply within_getRecord
            intro existing
            split
            · split <;> trivial
            · trivial
          · trivial

end Tenants

section Results

variable {py : Runtime} {engine : Engine} {caught : StoreError → Bool} {ledger : Ledger}
  {events : List (Event AcceptCall)}

/-- What holds of a ledger after an interleaving of calls: one record stands under a key, it is the
row of a call that returned its response, every call is decided by the record under its key, a step
writes nothing unless its call returns the stored response, every call returns after three steps,
and it returns what it would without the calls of other tenants. -/
structure Idempotent (py : Runtime) (ledger : Ledger)
    (after : List (Event AcceptCall) → System Ledger LedgerOp LedgerOp.Res Outcome)
    (events : List (Event AcceptCall)) : Prop where
  unique : ((after events).store.rows.map IntakeRow.key).Nodup
  kept : ledger.rows <+: (after events).store.rows
  first : ∀ row ∈ (after events).store.rows, row ∈ ledger.rows ∨
    ∃ (n : Nat) (call : AcceptCall), (started events)[n]? = some call ∧ row = newRow py call ∧
      (after events).outcome n = some (.ok row.response)
  decided : ∀ (n : Nat) (call : AcceptCall) (outcome : Outcome), (started events)[n]? = some call →
    (after events).outcome n = some outcome →
      ∃ row ∈ (after events).store.rows, row.key = call.key ∧
        outcome = answer (payloadFingerprintOf py call.request) row.toIntakeRecord
  writes : ∀ before e rest, events = before ++ e :: rest →
    (after (before ++ [e])).store = (after before).store ∨
      ∃ (n : Nat) (call : AcceptCall), e = .advance n ∧ (started events)[n]? = some call ∧
        (after (before ++ [e])).store.rows = (after before).store.rows ++ [newRow py call] ∧
        (after events).outcome n = some (.ok (newRow py call).response)
  returns : ∀ before rest n, events = before ++ rest → n < (started before).length →
    3 ≤ rest.countP (System.advances n) → ∃ outcome, (after events).outcome n = some outcome
  alone : ∀ (tenant : String) (n : Nat) (call : AcceptCall),
    (started events)[n]? = some call → call.tenantId = tenant →
      (after events).outcome n = (after (events.filter
        (System.follows (fun c => c.tenantId = tenant) (started events)))).outcome n

/-- The outcome of a call at the desk. -/
def Desk.outcome (d : Desk) (n : Nat) : Option Outcome :=
  match d.calls[n]? with
  | some (_, .ended outcome) => some outcome
  | _ => none

theorem outcome_eq_some {d : Desk} {n : Nat} {outcome : Outcome} :
    d.outcome n = some outcome ↔ ∃ call, d.calls[n]? = some (call, .ended outcome) := by
  unfold Desk.outcome
  cases d.calls[n]? with
  | none => simp
  | some entry =>
      obtain ⟨call, stage⟩ := entry
      cases stage <;> simp

theorem outcome_reached (hcaught : caught .uniqueViolation = true)
    (htaken : ∀ call ∈ started events, Taken py engine call) (n : Nat) :
    (System.reached engine.perform (acceptWith py caught) ledger events).outcome n =
      (deskAfter py ledger events).outcome n := by
  rw [reached_eq hcaught htaken]
  unfold System.outcome Desk.outcome
  rw [List.getElem?_map]
  cases (deskAfter py ledger events).calls[n]? with
  | none => rfl
  | some entry =>
      obtain ⟨call, stage⟩ := entry
      cases stage <;> rfl

theorem getElem?_started {n : Nat} {entry : AcceptCall × Stage}
    (h : (deskAfter py ledger events).calls[n]? = some entry) :
    (started events)[n]? = some entry.1 := by
  rw [← map_fst_deskAfter py ledger events, List.getElem?_map, h]
  rfl

theorem store_reached (hcaught : caught .uniqueViolation = true)
    (htaken : ∀ call ∈ started events, Taken py engine call) :
    (System.reached engine.perform (acceptWith py caught) ledger events).store =
      (deskAfter py ledger events).ledger := by
  rw [reached_eq hcaught htaken]

theorem ended_deskAfter {call : AcceptCall} {n : Nat} {outcome : Outcome}
    (h : (deskAfter py ledger events).calls[n]? = some (call, .ended outcome))
    (rest : List (Event AcceptCall)) :
    (deskAfter py ledger (events ++ rest)).calls[n]? = some (call, .ended outcome) := by
  unfold deskAfter at h ⊢
  rw [run_append]
  exact run_induction (I := fun d : Desk => d.calls[n]? = some (call, .ended outcome))
    (fun d e hd => ended_step hd e) h rest

/-- A step that writes stores the row of its call, which ends with the response of the row. -/
theorem writes_deskAfter (py : Runtime) (ledger : Ledger) (before : List (Event AcceptCall))
    (e : Event AcceptCall) :
    (deskAfter py ledger (before ++ [e])).ledger = (deskAfter py ledger before).ledger ∨
      ∃ (n : Nat) (call : AcceptCall), e = .advance n ∧
        (deskAfter py ledger (before ++ [e])).ledger.rows =
          (deskAfter py ledger before).ledger.rows ++ [newRow py call] ∧
        (deskAfter py ledger (before ++ [e])).calls[n]? =
          some (call, .ended (.ok (newRow py call).response)) := by
  rw [deskAfter_snoc]
  cases e with
  | start call => exact .inl rfl
  | advance n =>
      cases hn : (deskAfter py ledger before).calls[n]? with
      | none => exact .inl (by simp only [Desk.step, hn])
      | some entry =>
          simp only [Desk.step, hn]
          rcases stageStep_rows py (deskAfter py ledger before).ledger entry.1 entry.2 with
            hrows | ⟨hrows, hstage⟩
          · exact .inl hrows
          · refine .inr ⟨n, entry.1, rfl, hrows, ?_⟩
            rw [List.getElem?_set_self (List.getElem?_eq_some_iff.mp hn).1, hstage]

theorem returns_reached {before rest : List (Event AcceptCall)} {n : Nat}
    (hn : n < (started before).length) (hcount : 3 ≤ rest.countP (System.advances n)) :
    ∃ outcome, (System.reached engine.perform (acceptWith py caught) ledger
      (before ++ rest)).outcome n = some outcome := by
  have hlt : n < (System.reached engine.perform (acceptWith py caught) ledger before).pool.length := by
    rw [System.length_reached]
    exact hn
  have hwithin : System.Within 3
      ((System.reached engine.perform (acceptWith py caught) ledger before).pool.get ⟨n, hlt⟩) := by
    refine System.pool_run (I := System.Within 3) within_acceptWith (fun op next r h => ?_)
      (fun _ hp => absurd hp List.not_mem_nil) before _ (List.get_mem _ _)
    exact System.Within.succ (h r)
  obtain ⟨outcome, houtcome⟩ := System.ended_of_advanced (List.getElem?_eq_getElem hlt) hwithin hcount
  refine ⟨outcome, System.outcome_eq_some.mpr ?_⟩
  rw [System.reached, run_append]
  exact houtcome

/-- A call returns what it returns without the calls of other tenants. -/
theorem alone_reached {n : Nat} {call : AcceptCall} (hn : (started events)[n]? = some call) :
    (System.reached engine.perform (acceptWith py caught) ledger events).outcome n =
      (System.reached engine.perform (acceptWith py caught) ledger (events.filter
        (System.follows (fun c => c.tenantId = call.tenantId) (started events)))).outcome n := by
  have hagree : System.Agree (Ledger.ofTenant call.tenantId)
      (fun c : AcceptCall => c.tenantId = call.tenantId) (started events)
      (System.reached engine.perform (acceptWith py caught) ledger events)
      (System.reached engine.perform (acceptWith py caught) ledger (events.filter
        (System.follows (fun c => c.tenantId = call.tenantId) (started events)))) := by
    apply System.isolated (separates_tenant engine call.tenantId)
    · intro label hlabel
      exact calls_acceptWith (of_decide_eq_true hlabel) (of_decide_eq_true hlabel)
    · intro label hlabel
      exact calls_acceptWith (of_decide_eq_false hlabel) (of_decide_eq_false hlabel)
  unfold System.outcome
  rw [hagree.pool hn (decide_eq_true rfl)]

/-- A ledger whose database takes every call is idempotent. -/
theorem idempotent_of_taken (hcaught : caught .uniqueViolation = true)
    (htaken : ∀ call ∈ started events, Taken py engine call) :
    Idempotent py ledger (System.reached engine.perform (acceptWith py caught) ledger) events := by
  have haccounted := accounted_deskAfter py ledger events
  constructor
  · exact Ledger.unique _
  · rw [store_reached hcaught htaken]
    exact haccounted.kept
  · intro row hrow
    rw [store_reached hcaught htaken] at hrow
    apply (haccounted.first row hrow).imp_right
    rintro ⟨n, call, hn, hnew⟩
    refine ⟨n, call, getElem?_started hn, hnew, ?_⟩
    rw [outcome_reached hcaught htaken]
    exact outcome_eq_some.mpr ⟨call, hn⟩
  · intro n call outcome hcall houtcome
    rw [outcome_reached hcaught htaken, outcome_eq_some] at houtcome
    obtain ⟨started, hn⟩ := houtcome
    cases (getElem?_started hn).symm.trans hcall
    rw [store_reached hcaught htaken]
    exact haccounted.backed _ (List.mem_of_getElem? hn)
  · rintro before e rest rfl
    have hthen : before ++ e :: rest = before ++ [e] ++ rest := by simp
    have htakenThen : ∀ call ∈ started (before ++ [e]), Taken py engine call := by
      intro call hcall
      apply htaken call
      rw [hthen, started_append]
      exact List.mem_append_left _ hcall
    have htakenBefore : ∀ call ∈ started before, Taken py engine call := by
      intro call hcall
      apply htaken call
      rw [started_append]
      exact List.mem_append_left _ hcall
    rw [store_reached hcaught htakenThen, store_reached hcaught htakenBefore]
    apply (writes_deskAfter py ledger before e).imp_right
    rintro ⟨n, call, he, hrows, hn⟩
    have hended := ended_deskAfter hn rest
    rw [← hthen] at hended
    refine ⟨n, call, he, getElem?_started hended, hrows, ?_⟩
    rw [outcome_reached hcaught htaken]
    exact outcome_eq_some.mpr ⟨call, hended⟩
  · rintro before rest n rfl hn hcount
    exact returns_reached hn hcount
  · rintro tenant n call hn rfl
    exact alone_reached hn

/-- Where PostgreSQL takes what every call looks up and stores, both ledgers are idempotent in every
run, and after the same steps they hold the same rows and have given the same outcomes. -/
theorem accept_idempotent (py : Runtime) (postgres : Engine) (ledger : Ledger)
    (events : List (Event AcceptCall))
    (htaken : ∀ call ∈ started events, Taken py postgres call) :
    Idempotent py ledger (sqliteAfter py ledger) events ∧
      Idempotent py ledger (postgresAfter py postgres ledger) events ∧
      (sqliteAfter py ledger events).store = (postgresAfter py postgres ledger events).store ∧
      ∀ n, (sqliteAfter py ledger events).outcome n =
        (postgresAfter py postgres ledger events).outcome n := by
  have hsqlite : ∀ call ∈ started events, Taken py Engine.sqlite call :=
    fun _ _ => ⟨rfl, rfl, rfl⟩
  refine ⟨idempotent_of_taken rfl hsqlite, idempotent_of_taken rfl htaken, ?_, fun n => ?_⟩
  · exact (store_reached rfl hsqlite).trans (store_reached rfl htaken).symm
  · exact (outcome_reached rfl hsqlite n).trans (outcome_reached rfl htaken n).symm

/-- The text has no NUL character. -/
def withoutNul (text : String) : Bool := text.toList.all fun c => c.toNat ≠ 0

mutual

/-- Every text of a value is without NUL. -/
def jsonWithoutNul : Json → Bool
  | .str text => withoutNul text
  | .arr items => itemsWithoutNul items
  | .obj fields => fieldsWithoutNul fields
  | _ => true

def itemsWithoutNul : List Json → Bool
  | [] => true
  | j :: js => jsonWithoutNul j && itemsWithoutNul js

def fieldsWithoutNul : Fields → Bool
  | [] => true
  | (k, j) :: fields => withoutNul k && jsonWithoutNul j && fieldsWithoutNul fields

end

/-- The texts of a row outside of its caller context. -/
def IntakeRow.texts (row : IntakeRow) : List String :=
  [row.tenantId, row.idempotencyKey, row.intakeId, row.payloadFingerprint, row.reportEvidencePackId,
    row.conversionIntentId, row.candidateId, row.evidencePacketId, row.evidenceContentFingerprint,
    row.producer, row.supportabilityStatus] ++ row.correlationId.toList ++ row.traceId.toList

/-- A PostgreSQL server that refuses nothing but NUL in texts and documents. -/
def Engine.refusingNul : Engine where
  binds := withoutNul
  takes row := row.texts.all withoutNul && jsonWithoutNul row.callerContext

/-- A platform for closed runs of one request. -/
def sampleRuntime : Runtime := ⟨fun _ => "8b1a9953c4611296a827abf8c47804d7", fun _ => true⟩

/-- The call that accepts an evidence pack for a tenant. -/
def sampleCall (reportEvidencePackId : String) (acceptedNow : Instant) : AcceptCall where
  request := ⟨reportEvidencePackId, "icnv_001", "icand_001", "ievp_001", "sha256:content", []⟩
  tenantId := "acme"
  idempotencyKey := "intake-1"
  acceptedAtUtc := none
  correlationId := none
  traceId := none
  callerContext := none
  acceptedNow := acceptedNow
  createdNow := acceptedNow

/-- Two calls with one request that both look up before either stores. -/
def racingCalls : List (Event AcceptCall) :=
  [.start (sampleCall "irep_001" 1), .start (sampleCall "irep_001" 2), .advance 0, .advance 1,
    .advance 1, .advance 0, .advance 0]

/-- The second of two racing calls to store gives the response of the first. -/
theorem taken_racingCalls :
    ∀ call ∈ started racingCalls, Taken sampleRuntime Engine.refusingNul call := by
  decide +kernel

theorem accept_idempotent_race :
    Idempotent sampleRuntime ⟨[], List.nodup_nil⟩
        (postgresAfter sampleRuntime Engine.refusingNul ⟨[], List.nodup_nil⟩) racingCalls ∧
      (postgresAfter sampleRuntime Engine.refusingNul ⟨[], List.nodup_nil⟩ racingCalls).outcome 0 =
        some (.ok (newRow sampleRuntime (sampleCall "irep_001" 2)).response) := by
  refine ⟨(accept_idempotent sampleRuntime Engine.refusingNul ⟨[], List.nodup_nil⟩ racingCalls
    taken_racingCalls).2.1, ?_⟩
  decide +kernel

/-- One call whose evidence pack id has a NUL character. -/
def nulCall : List (Event AcceptCall) :=
  [.start (sampleCall "irep\x00001" 1), .advance 0, .advance 0]

/-- An id with a NUL character: SQLite stores the intake, PostgreSQL refuses it. -/
theorem nul_accepted_by_sqlite_only :
    (sqliteAfter sampleRuntime ⟨[], List.nodup_nil⟩ nulCall).outcome 0 =
        some (.ok (newRow sampleRuntime (sampleCall "irep\x00001" 1)).response) ∧
      (postgresAfter sampleRuntime Engine.refusingNul ⟨[], List.nodup_nil⟩ nulCall).outcome 0 =
        some (.error (.store .dataError)) := by
  decide +kernel

end Results

end LotusReport.Intake
