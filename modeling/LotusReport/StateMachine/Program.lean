import LotusReport.StateMachine.Run

/-!
# Programs over a shared store

A program calls the operations of a store one at a time and computes its next
call from the results it has read. A system is a store with the programs that
are under way on it; each step starts a program or lets one of them make its
next call, so a run is an interleaving of programs, any of which may stop at
any point.

A discipline says what every call keeps: an invariant of the store, and a
preorder along which the store develops. A program is safe when each of its
calls, made on a store that others have developed further in the meantime,
keeps both.
-/

namespace StateMachine

/-- A program with operations `Op`, whose results have the types `Res`. -/
inductive Program (Op : Type) (Res : Op → Type) (α : Type) where
  | done (value : α)
  | call (op : Op) (next : Res op → Program Op Res α)

namespace Program

variable {Op : Type} {Res : Op → Type} {α β : Type}

/-- Run a second program on the value of the first. -/
def bind : Program Op Res α → (α → Program Op Res β) → Program Op Res β
  | .done a, next => next a
  | .call op rest, next => .call op fun r => (rest r).bind next

@[simp] theorem bind_done (a : α) (next : α → Program Op Res β) :
    (done a : Program Op Res α).bind next = next a := rfl

@[simp] theorem bind_call (op : Op) (rest : Res op → Program Op Res α)
    (next : α → Program Op Res β) :
    (call op rest).bind next = .call op fun r => (rest r).bind next := rfl

/-- Run a second program on the value of the first, unless the first ended in an error. -/
def andThen {ε : Type} (p : Program Op Res (Except ε α))
    (next : α → Program Op Res (Except ε β)) : Program Op Res (Except ε β) :=
  p.bind fun
    | .error error => .done (.error error)
    | .ok a => next a

/-- Every call that the program can make, whatever it is answered, is one of `P`. -/
def Calls (P : Op → Prop) : Program Op Res α → Prop
  | .done _ => True
  | .call op next => P op ∧ ∀ r, Calls P (next r)

variable {P : Op → Prop} {p : Program Op Res α}

theorem calls_call {op : Op} {next : Res op → Program Op Res α} (hop : P op)
    (h : ∀ r, (next r).Calls P) : (call op next).Calls P := ⟨hop, h⟩

theorem Calls.bind {next : α → Program Op Res β} (h : p.Calls P) (hnext : ∀ a, (next a).Calls P) :
    (p.bind next).Calls P := by
  induction p with
  | done a => exact hnext a
  | call op rest ih => exact ⟨h.1, fun r => ih r (h.2 r)⟩

theorem Calls.andThen {ε : Type} {p : Program Op Res (Except ε α)}
    {next : α → Program Op Res (Except ε β)} (h : p.Calls P) (hnext : ∀ a, (next a).Calls P) :
    (p.andThen next).Calls P := by
  apply h.bind
  intro outcome
  cases outcome with
  | error error => trivial
  | ok a => exact hnext a

section Runs

/-- A run of the program: its calls with the answers they got, and the value it ended with. -/
inductive Runs : Program Op Res α → List ((op : Op) × Res op) → α → Prop where
  | done (a : α) : Runs (.done a) [] a
  | call {op : Op} {next : Res op → Program Op Res α} {trace : List ((op : Op) × Res op)} {a : α}
      (r : Res op) : Runs (next r) trace a → Runs (.call op next) (⟨op, r⟩ :: trace) a

/-- The run in which every call gets the answer of one function. -/
def runWith (respond : (op : Op) → Res op) :
    Program Op Res α → List ((op : Op) × Res op) × α
  | .done a => ([], a)
  | .call op next =>
      let rest := runWith respond (next (respond op))
      (⟨op, respond op⟩ :: rest.1, rest.2)

theorem runWith_bind (respond : (op : Op) → Res op) (p : Program Op Res α)
    (next : α → Program Op Res β) :
    (p.bind next).runWith respond =
      ((p.runWith respond).1 ++ ((next (p.runWith respond).2).runWith respond).1,
        ((next (p.runWith respond).2).runWith respond).2) := by
  induction p with
  | done a => rfl
  | call op rest ih =>
      rw [bind_call, runWith, runWith, ih]
      rfl

theorem runWith_andThen_ok {ε : Type} {respond : (op : Op) → Res op}
    {p : Program Op Res (Except ε α)} {next : α → Program Op Res (Except ε β)}
    {trace : List ((op : Op) × Res op)} {a : α} (h : p.runWith respond = (trace, .ok a)) :
    (p.andThen next).runWith respond =
      (trace ++ ((next a).runWith respond).1, ((next a).runWith respond).2) := by
  unfold andThen
  rw [runWith_bind, h]

theorem runWith_andThen_error {ε : Type} {respond : (op : Op) → Res op}
    {p : Program Op Res (Except ε α)} {next : α → Program Op Res (Except ε β)}
    {trace : List ((op : Op) × Res op)} {e : ε} (h : p.runWith respond = (trace, .error e)) :
    (p.andThen next).runWith respond = (trace, .error e) := by
  unfold andThen
  rw [runWith_bind, h]
  simp [runWith]

theorem runs_runWith (respond : (op : Op) → Res op) (p : Program Op Res α) :
    p.Runs (p.runWith respond).1 (p.runWith respond).2 := by
  induction p with
  | done a => exact .done a
  | call op next ih => exact .call (respond op) (ih (respond op))

/-- Every call is permitted after what happened before it, every answer is either acceptable or
ends the program at once with a value of `F`, and the program ends with `Q`. -/
def Guarded (P : List ((op : Op) × Res op) → Op → Prop) (R : (op : Op) → Res op → Prop)
    (F : α → Prop) (Q : List ((op : Op) × Res op) → α → Prop) :
    List ((op : Op) × Res op) → Program Op Res α → Prop
  | before, .done a => Q before a
  | before, .call op next => P before op ∧ ∀ r : Res op,
      (R op r ∨ ∃ a, next r = .done a ∧ F a) ∧ Guarded P R F Q (before ++ [⟨op, r⟩]) (next r)

variable {P : List ((op : Op) × Res op) → Op → Prop} {R : (op : Op) → Res op → Prop}
  {F : α → Prop} {G : β → Prop} {Q : List ((op : Op) × Res op) → α → Prop}
  {S : List ((op : Op) × Res op) → β → Prop} {before : List ((op : Op) × Res op)}
  {p : Program Op Res α}

/-- A second program that passes failures on is guarded behind a guarded one. -/
theorem Guarded.bind {next : α → Program Op Res β} (h : Guarded P R F Q before p)
    (hfail : ∀ a, F a → ∃ b, next a = .done b ∧ G b)
    (hnext : ∀ a after, Q (before ++ after) a → Guarded P R G S (before ++ after) (next a)) :
    Guarded P R G S before (p.bind next) := by
  induction p generalizing before with
  | done a =>
      have hdone := hnext a []
      rw [List.append_nil] at hdone
      exact hdone h
  | call op rest ih =>
      refine ⟨h.1, fun r => ⟨?_, ?_⟩⟩
      · rcases (h.2 r).1 with hr | ⟨a, ha, hF⟩
        · exact .inl hr
        · obtain ⟨b, hb, hG⟩ := hfail a hF
          refine .inr ⟨b, ?_, hG⟩
          show (rest r).bind next = .done b
          rw [ha]
          exact hb
      · apply ih r (h.2 r).2
        intro a after hQ
        rw [List.append_assoc] at hQ ⊢
        exact hnext a _ hQ

/-- The program ended in an error. -/
def Failed {ε : Type} : Except ε α → Prop
  | .error _ => True
  | .ok _ => False

/-- A condition on the value of a program that did not end in an error. -/
def Returned {ε : Type} (Q : List ((op : Op) × Res op) → α → Prop) :
    List ((op : Op) × Res op) → Except ε α → Prop
  | _, .error _ => True
  | trace, .ok a => Q trace a

theorem Guarded.andThen {ε : Type} {p : Program Op Res (Except ε α)}
    {next : α → Program Op Res (Except ε β)} (h : Guarded P R Failed (Returned Q) before p)
    (hnext : ∀ a after, Q (before ++ after) a →
      Guarded P R Failed (Returned S) (before ++ after) (next a)) :
    Guarded P R Failed (Returned S) before (p.andThen next) := by
  apply h.bind
  · intro outcome hF
    cases outcome with
    | error e => exact ⟨.error e, rfl, trivial⟩
    | ok a => cases hF
  · intro outcome after hQ
    cases outcome with
    | error e => trivial
    | ok a => exact hnext a after hQ

/-- In every run of a guarded program each call was permitted, and an unacceptable answer was the
last event of the run. -/
theorem Guarded.of_runs {trace : List ((op : Op) × Res op)} {a : α} (h : Guarded P R F Q before p)
    (hrun : p.Runs trace a) {passed after : List ((op : Op) × Res op)} {op : Op} {r : Res op}
    (htrace : trace = passed ++ ⟨op, r⟩ :: after) :
    P (before ++ passed) op ∧ (R op r ∨ after = [] ∧ F a) := by
  induction hrun generalizing before passed with
  | done a => cases passed <;> cases htrace
  | @call op' next rest a r' hrest ih =>
      cases passed with
      | nil =>
          cases htrace
          rw [List.append_nil]
          refine ⟨h.1, ?_⟩
          rcases (h.2 r).1 with hr | ⟨b, hb, hF⟩
          · exact .inl hr
          · rw [hb] at hrest
            cases hrest
            exact .inr ⟨rfl, hF⟩
      | cons e passed =>
          obtain ⟨rfl, rfl⟩ := List.cons.inj htrace
          have hsplit := ih (h.2 r').2 rfl
          rwa [List.append_assoc] at hsplit

end Runs

end Program

/-- A store and the programs under way on it. -/
structure System (σ Op : Type) (Res : Op → Type) (α : Type) where
  store : σ
  pool : List (Program Op Res α)

/-- A program starts, or the program at a position makes its next call. -/
inductive Event (ℓ : Type) where
  | start (label : ℓ)
  | advance (position : Nat)

namespace System

variable {σ Op ℓ : Type} {Res : Op → Type} {α : Type}
  (perform : σ → (op : Op) → σ × Res op) (program : ℓ → Program Op Res α)

/-- The system before any program has started. -/
def initial (s : σ) : System σ Op Res α := ⟨s, []⟩

/-- One step of the system. -/
def step (c : System σ Op Res α) : Event ℓ → System σ Op Res α
  | .start label => { c with pool := c.pool ++ [program label] }
  | .advance n =>
      match c.pool[n]? with
      | some (.call op next) =>
          ⟨(perform c.store op).1, c.pool.set n (next (perform c.store op).2)⟩
      | _ => c

/-- The event makes no call, or one that is permitted on the store before it. -/
def Permitted (P : σ → Op → Prop) (c : System σ Op Res α) : Event ℓ → Prop
  | .start _ => True
  | .advance n => ∀ op next, c.pool[n]? = some (.call op next) → P c.store op

instance Permitted.decidable (P : σ → Op → Prop) [∀ s op, Decidable (P s op)]
    (c : System σ Op Res α) : (e : Event ℓ) → Decidable (c.Permitted P e)
  | .start _ => isTrue trivial
  | .advance n =>
      match hn : c.pool[n]? with
      | none => isTrue fun op next h => by simp [hn] at h
      | some (.done a) => isTrue fun op next h => by simp [hn] at h
      | some (.call op next) =>
          decidable_of_iff (P c.store op)
            ⟨fun hP op' next' h => by
              rw [hn] at h
              cases h
              exact hP, fun h => h op next hn⟩

variable {perform program} {c : System σ Op Res α} {e : Event ℓ} {n : Nat}
  {p : Program Op Res α}

theorem step_advance_call {op : Op} {next : Res op → Program Op Res α}
    (hn : c.pool[n]? = some (.call op next)) :
    c.step perform program (.advance n) =
      ⟨(perform c.store op).1, c.pool.set n (next (perform c.store op).2)⟩ := by
  simp only [step, hn]

theorem step_advance_done {a : α} (hn : c.pool[n]? = some (.done a)) :
    c.step perform program (.advance n) = c := by
  simp only [step, hn]

/-- A program stands where it is while others move. -/
theorem getElem?_step_of_ne (hn : c.pool[n]? = some p) (he : e ≠ .advance n) :
    (c.step perform program e).pool[n]? = some p := by
  have hlt : n < c.pool.length := (List.getElem?_eq_some_iff.mp hn).1
  cases e with
  | start label =>
      simp only [step]
      rw [List.getElem?_append_left hlt, hn]
  | advance m =>
      have hne : m ≠ n := fun h => he (by rw [h])
      cases hm : c.pool[m]? with
      | none => simpa only [step, hm] using hn
      | some q =>
          cases q with
          | done a => simpa only [step, hm] using hn
          | call op next =>
              rw [step_advance_call hm]
              simpa only [List.getElem?_set_ne hne] using hn

theorem getElem?_run_of_ne {events : List (Event ℓ)} (hn : c.pool[n]? = some p)
    (he : ∀ e ∈ events, e ≠ .advance n) :
    (run (step perform program) c events).pool[n]? = some p := by
  induction events generalizing c with
  | nil => exact hn
  | cons e events ih =>
      exact ih (getElem?_step_of_ne hn (he e List.mem_cons_self))
        fun e' he' => he e' (List.mem_cons_of_mem e he')

/-- A program that has ended stays ended. -/
theorem getElem?_run_of_done {events : List (Event ℓ)} {a : α} (hn : c.pool[n]? = some (.done a)) :
    (run (step perform program) c events).pool[n]? = some (.done a) := by
  refine run_induction (I := fun c : System σ Op Res α => c.pool[n]? = some (.done a))
    (fun c e hc => ?_) hn events
  by_cases he : e = .advance n
  · rw [he, step_advance_done hc]
    exact hc
  · exact getElem?_step_of_ne hc he

/-- A property of programs that every continuation inherits holds of all that are under way. -/
theorem pool_run {I : Program Op Res α → Prop} (hstart : ∀ label, I (program label))
    (hnext : ∀ op next r, I (.call op next) → I (next r)) (hc : ∀ p ∈ c.pool, I p)
    (events : List (Event ℓ)) : ∀ p ∈ (run (step perform program) c events).pool, I p := by
  refine run_induction (I := fun c : System σ Op Res α => ∀ p ∈ c.pool, I p)
    (fun c e hc => ?_) hc events
  cases e with
  | start label =>
      intro p hp
      rcases List.mem_append.mp hp with hp | hp
      · exact hc p hp
      · rw [List.mem_singleton.mp hp]
        exact hstart label
  | advance n =>
      cases hn : c.pool[n]? with
      | none => simpa only [step, hn] using hc
      | some p =>
          cases p with
          | done a => simpa only [step, hn] using hc
          | call op next =>
              rw [step_advance_call hn]
              intro q hq
              rcases List.mem_or_eq_of_mem_set hq with hq | rfl
              · exact hc q hq
              · exact hnext op next _ (hc _ (List.mem_of_getElem? hn))

/-- An invariant of the store that every permitted call keeps holds after a permitted run. -/
theorem store_invariant {I : σ → Prop} {P : σ → Op → Prop}
    (hcall : ∀ s op, I s → P s op → I (perform s op).1) {s : σ} (hs : I s)
    {events : List (Event ℓ)}
    (hpermitted : Along (step perform program) (fun c e => c.Permitted P e)
      (initial s : System σ Op Res α) events) :
    I (run (step perform program) (initial s : System σ Op Res α) events).store := by
  refine run_invariant (I := fun c : System σ Op Res α => I c.store) (fun c e hc he => ?_) hs
    hpermitted
  cases e with
  | start label => exact hc
  | advance n =>
      cases hn : c.pool[n]? with
      | none => simpa only [step, hn] using hc
      | some p =>
          cases p with
          | done a => simpa only [step, hn] using hc
          | call op next =>
              rw [step_advance_call hn]
              exact hcall c.store op hc (he op next hn)

end System

/-- An invariant of the store, a preorder along which it develops, and the calls considered. -/
structure Discipline (σ Op : Type) where
  Inv : σ → Prop
  Later : σ → σ → Prop
  Allowed : σ → Op → Prop
  refl : ∀ s, Later s s
  trans : ∀ {s t u}, Later s t → Later t u → Later s u

namespace Discipline

variable {σ Op ℓ : Type} {Res : Op → Type} {α β : Type}
  (d : Discipline σ Op) (perform : σ → (op : Op) → σ × Res op)

/-- Every allowed call of the program keeps the discipline, on whatever store it finds, and the
program ends with `Q`. -/
def Safe (Q : α → σ → Prop) : Program Op Res α → σ → Prop
  | .done a, s => ∀ t, d.Later s t → d.Inv t → Q a t
  | .call op next, s => ∀ t, d.Later s t → d.Inv t → d.Allowed t op →
      d.Inv (perform t op).1 ∧ d.Later t (perform t op).1 ∧
        Safe Q (next (perform t op).2) (perform t op).1

variable {d perform} {Q : α → σ → Prop} {s t : σ} {p : Program Op Res α}

/-- Safety survives what others do. -/
theorem Safe.later (h : d.Safe perform Q p s) (hst : d.Later s t) : d.Safe perform Q p t := by
  cases p with
  | done a => exact fun u hu hInv => h u (d.trans hst hu) hInv
  | call op next => exact fun u hu hInv hop => h u (d.trans hst hu) hInv hop

/-- A program that has ended is safe where its postcondition lasts. -/
theorem safe_done {a : α} (h : ∀ t, d.Later s t → d.Inv t → Q a t) :
    d.Safe perform Q (.done a) s := h

theorem safe_end {a : α} : d.Safe perform (fun _ _ => True) (.done a) s := fun _ _ _ => trivial

/-- A call that leaves the store as it is. -/
theorem safe_read {op : Op} {next : Res op → Program Op Res α}
    (hread : ∀ t, (perform t op).1 = t)
    (h : ∀ t, d.Later s t → d.Inv t → d.Safe perform Q (next (perform t op).2) t) :
    d.Safe perform Q (.call op next) s := by
  intro t hst hInv _
  rw [hread t]
  exact ⟨hInv, d.refl t, h t hst hInv⟩

/-- Two programs in sequence. -/
theorem Safe.bind {R : β → σ → Prop} {next : α → Program Op Res β}
    (h : d.Safe perform Q p s) (hInv : d.Inv s)
    (hnext : ∀ a t, d.Later s t → d.Inv t → Q a t → d.Safe perform R (next a) t) :
    d.Safe perform R (p.bind next) s := by
  induction p generalizing s with
  | done a => exact hnext a s (d.refl s) hInv (h s (d.refl s) hInv)
  | call op rest ih =>
      intro t hst hInvt hop
      obtain ⟨hInv', hLater, hrest⟩ := h t hst hInvt hop
      refine ⟨hInv', hLater, ih _ hrest hInv' fun a u hu hInvu hQ => ?_⟩
      exact hnext a u (d.trans hst (d.trans hLater hu)) hInvu hQ

/-- A condition on the value of a program that did not end in an error. -/
def OnSuccess {ε : Type} (Q : α → σ → Prop) : Except ε α → σ → Prop
  | .ok a, s => Q a s
  | .error _, _ => True

theorem onSuccess_true {ε : Type} :
    (OnSuccess (fun _ _ => True) : Except ε α → σ → Prop) = fun _ _ => True := by
  funext outcome s
  cases outcome <;> rfl

/-- Two programs in sequence, the second on the value of the first. -/
theorem Safe.andThen {ε : Type} {Q : α → σ → Prop} {R : β → σ → Prop}
    {p : Program Op Res (Except ε α)} {next : α → Program Op Res (Except ε β)}
    (h : d.Safe perform (OnSuccess Q) p s) (hInv : d.Inv s)
    (hnext : ∀ a t, d.Later s t → d.Inv t → Q a t → d.Safe perform (OnSuccess R) (next a) t) :
    d.Safe perform (OnSuccess R) (p.andThen next) s := by
  apply h.bind hInv
  intro outcome t hst ht hQ
  cases outcome with
  | error error => exact fun _ _ _ => trivial
  | ok a => exact hnext a t hst ht hQ

/-- A consequence of the value of a program, in the state in which it ends. -/
theorem Safe.weaken {ε : Type} {Q R : α → σ → Prop} {p : Program Op Res (Except ε α)}
    (h : d.Safe perform (OnSuccess Q) p s) (hQ : ∀ a t, d.Later s t → Q a t → R a t) :
    d.Safe perform (OnSuccess R) p s := by
  induction p generalizing s with
  | done outcome =>
      intro t hst hInv
      cases outcome with
      | error error => trivial
      | ok a => exact hQ a t hst (h t hst hInv)
  | call op next ih =>
      intro t hst hInv hop
      obtain ⟨hInv', hLater, hrest⟩ := h t hst hInv hop
      refine ⟨hInv', hLater, ih _ hrest fun a u hu hQa => ?_⟩
      exact hQ a u (d.trans hst (d.trans hLater hu)) hQa

/-- A program all of whose calls keep the discipline is safe. -/
theorem safe_of_calls {P : Op → Prop} (h : p.Calls P)
    (hkept : ∀ op t, P op → d.Inv t → d.Allowed t op →
      d.Inv (perform t op).1 ∧ d.Later t (perform t op).1) :
    d.Safe perform (fun _ _ => True) p s := by
  induction p generalizing s with
  | done a => exact fun _ _ _ => trivial
  | call op next ih =>
      intro t _ hInv hop
      obtain ⟨hInv', hLater⟩ := hkept op t h.1 hInv hop
      exact ⟨hInv', hLater, ih _ (h.2 _)⟩

section Runs

variable (d perform) (program : ℓ → Program Op Res α)

/-- The invariant holds and every program under way is safe. -/
structure Governs (c : System σ Op Res α) : Prop where
  inv : d.Inv c.store
  safe : ∀ p ∈ c.pool, d.Safe perform (fun _ _ => True) p c.store

variable {d perform program}

theorem governs_initial (hs : d.Inv s) :
    d.Governs perform (System.initial s : System σ Op Res α) :=
  ⟨hs, fun _ hp => absurd hp List.not_mem_nil⟩

/-- Where the program that starts is safe, an allowed step keeps the discipline. -/
theorem Governs.step {c : System σ Op Res α} {e : Event ℓ} (hc : d.Governs perform c)
    (hstart : ∀ label, e = .start label → ∀ s, d.Inv s →
      d.Safe perform (fun _ _ => True) (program label) s)
    (he : c.Permitted d.Allowed e) :
    d.Governs perform (c.step perform program e) ∧
      d.Later c.store (c.step perform program e).store := by
  cases e with
  | start label =>
      refine ⟨⟨hc.inv, fun p hp => ?_⟩, d.refl c.store⟩
      rcases List.mem_append.mp hp with hp | hp
      · exact hc.safe p hp
      · rw [List.mem_singleton.mp hp]
        exact hstart label rfl c.store hc.inv
  | advance n =>
      cases hn : c.pool[n]? with
      | none => simpa only [System.step, hn] using ⟨hc, d.refl c.store⟩
      | some p =>
          cases p with
          | done a => simpa only [System.step, hn] using ⟨hc, d.refl c.store⟩
          | call op next =>
              have hsafe := hc.safe _ (List.mem_of_getElem? hn)
              obtain ⟨hInv, hLater, hnext⟩ :=
                hsafe c.store (d.refl c.store) hc.inv (he op next hn)
              simp only [System.step, hn]
              refine ⟨⟨hInv, fun q hq => ?_⟩, hLater⟩
              rcases List.mem_or_eq_of_mem_set hq with hq | rfl
              · exact (hc.safe q hq).later hLater
              · exact hnext

/-- Along a run of safe programs whose calls are all allowed the invariant holds and the store
develops. -/
theorem Governs.run {c : System σ Op Res α} {events : List (Event ℓ)}
    (hc : d.Governs perform c)
    (hstart : ∀ label, .start label ∈ events → ∀ s, d.Inv s →
      d.Safe perform (fun _ _ => True) (program label) s)
    (hallowed : Along (System.step perform program)
      (fun c e => c.Permitted d.Allowed e) c events) :
    d.Governs perform (StateMachine.run (System.step perform program) c events) ∧
      d.Later c.store (StateMachine.run (System.step perform program) c events).store := by
  induction events generalizing c with
  | nil => exact ⟨hc, d.refl c.store⟩
  | cons e events ih =>
      obtain ⟨hstep, hLater⟩ :=
        hc.step (fun label he => hstart label (he ▸ List.mem_cons_self)) hallowed.1
      obtain ⟨hrest, hLater'⟩ :=
        ih hstep (fun label hlabel => hstart label (List.mem_cons_of_mem e hlabel)) hallowed.2
      exact ⟨hrest, d.trans hLater hLater'⟩

end Runs

end Discipline

end StateMachine
