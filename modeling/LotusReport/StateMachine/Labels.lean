import LotusReport.StateMachine.Program
import Mathlib.Data.List.Induction

/-!
# Programs by their labels

The programs of a system stand in the order in which they were started, so a
run determines the label of every position. A program keeps what its label
promises, it ends once it was advanced often enough, and it cannot notice
programs that work on another part of the store.
-/

namespace StateMachine

variable {σ Op ℓ : Type} {Res : Op → Type} {α : Type}
  {perform : σ → (op : Op) → σ × Res op} {program : ℓ → Program Op Res α}

/-- The labels of the programs that a run starts. -/
def started : List (Event ℓ) → List ℓ
  | [] => []
  | .start label :: events => label :: started events
  | .advance _ :: events => started events

theorem started_append (events events' : List (Event ℓ)) :
    started (events ++ events') = started events ++ started events' := by
  induction events with
  | nil => rfl
  | cons e events ih => cases e <;> simp [started, ih]

/-- The store and the rest of a program after its next call. -/
def Program.advance (perform : σ → (op : Op) → σ × Res op) (s : σ) :
    Program Op Res α → σ × Program Op Res α
  | .done a => (s, .done a)
  | .call op next => ((perform s op).1, next (perform s op).2)

namespace System

theorem step_advance {c : System σ Op Res α} {n : Nat} {p : Program Op Res α}
    (hn : c.pool[n]? = some p) :
    c.step perform program (.advance n) =
      ⟨(p.advance perform c.store).1, c.pool.set n (p.advance perform c.store).2⟩ := by
  cases p with
  | done a =>
      obtain ⟨hlt, hget⟩ := List.getElem?_eq_some_iff.mp hn
      rw [step_advance_done hn, Program.advance, ← hget, List.set_getElem_self]
  | call op next => exact step_advance_call hn

/-- The value with which the program at a position has ended. -/
def outcome (c : System σ Op Res α) (n : Nat) : Option α :=
  match c.pool[n]? with
  | some (.done a) => some a
  | _ => none

theorem outcome_eq_some {c : System σ Op Res α} {n : Nat} {a : α} :
    c.outcome n = some a ↔ c.pool[n]? = some (.done a) := by
  unfold outcome
  cases c.pool[n]? with
  | none => simp
  | some p => cases p <;> simp

section Labels

variable {s : σ} {events : List (Event ℓ)} {e : Event ℓ} {n : Nat} {p : Program Op Res α}

variable (perform program s events) in
/-- The system after a run from a store on which no program is under way. -/
def reached : System σ Op Res α := run (step perform program) (initial s) events

theorem reached_snoc :
    reached perform program s (events ++ [e]) =
      (reached perform program s events).step perform program e := run_append _ _ _ _

theorem length_step (c : System σ Op Res α) (e : Event ℓ) :
    (c.step perform program e).pool.length = c.pool.length + (started [e]).length := by
  cases e with
  | start label => simp [step, started]
  | advance m =>
      cases hm : c.pool[m]? with
      | none => simp [step, hm, started]
      | some q => cases q <;> simp [step, hm, started]

theorem length_reached : (reached perform program s events).pool.length = (started events).length := by
  induction events using List.reverseRecOn with
  | nil => rfl
  | append_singleton events e ih =>
      rw [reached_snoc, length_step, ih, started_append, List.length_append]

/-- What moves a program on from a call to its continuation. -/
theorem getElem?_step {c : System σ Op Res α} (h : (c.step perform program e).pool[n]? = some p) :
    c.pool[n]? = some p ∨
      (n = c.pool.length ∧ ∃ label, e = .start label ∧ p = program label) ∨
      ∃ op next, e = .advance n ∧ c.pool[n]? = some (.call op next) ∧
        p = next (perform c.store op).2 := by
  cases e with
  | start label =>
      rw [step, List.getElem?_append] at h
      split at h
      · exact .inl h
      · right
        left
        rename_i hge
        obtain ⟨hzero, hp⟩ := List.getElem?_eq_some_iff.mp h
        simp only [List.length_singleton, Nat.lt_one_iff] at hzero
        refine ⟨by omega, label, rfl, ?_⟩
        simpa [hzero] using hp.symm
  | advance m =>
      cases hm : c.pool[m]? with
      | none => exact .inl (by simpa only [step, hm] using h)
      | some q =>
          cases q with
          | done a => exact .inl (by simpa only [step, hm] using h)
          | call op next =>
              rw [step_advance_call hm] at h
              by_cases hne : m = n
              · subst hne
                have hlt : m < c.pool.length := (List.getElem?_eq_some_iff.mp hm).1
                rw [List.getElem?_set_self hlt] at h
                exact .inr (.inr ⟨op, next, rfl, hm, (Option.some.inj h).symm⟩)
              · rw [List.getElem?_set_ne hne] at h
                exact .inl h

/-- A property of programs and stores that holds at the start, survives what others do and passes
to every continuation holds of every program under way, for its own label. -/
theorem labelled_reached {I : ℓ → Program Op Res α → σ → Prop}
    (hstart : ∀ label s, I label (program label) s)
    (hothers : ∀ label p s op, I label p s → I label p (perform s op).1)
    (hnext : ∀ label op next s, I label (.call op next) s →
      I label (next (perform s op).2) (perform s op).1)
    {label : ℓ} (hlabel : (started events)[n]? = some label)
    (hp : (reached perform program s events).pool[n]? = some p) :
    I label p (reached perform program s events).store := by
  induction events using List.reverseRecOn generalizing p with
  | nil => cases hp
  | append_singleton events e ih =>
      have hstore : ∀ q, I label q (reached perform program s events).store →
          I label q ((reached perform program s events).step perform program e).store := by
        intro q hq
        cases e with
        | start label' => exact hq
        | advance m =>
            cases hm : (reached perform program s events).pool[m]? with
            | none => simpa only [step, hm] using hq
            | some r =>
                cases r with
                | done a => simpa only [step, hm] using hq
                | call op next =>
                    rw [step_advance_call hm]
                    exact hothers label q _ op hq
      have hearlier : ∀ q, (reached perform program s events).pool[n]? = some q →
          (started events)[n]? = some label := by
        intro q hq
        have hlt := (List.getElem?_eq_some_iff.mp hq).1
        rw [length_reached] at hlt
        rwa [started_append, List.getElem?_append_left hlt] at hlabel
      rw [reached_snoc] at hp ⊢
      rcases getElem?_step hp with hp | ⟨hn, label', rfl, rfl⟩ | ⟨op, next, rfl, hn, rfl⟩
      · exact hstore p (ih (hearlier p hp) hp)
      · rw [hn, length_reached, started_append, List.getElem?_append_right (Nat.le_refl _), Nat.sub_self]
          at hlabel
        cases hlabel
        exact hstart label _
      · rw [step_advance_call hn]
        exact hnext label op next _ (ih (hearlier _ hn) hn)

end Labels

section Ending

/-- The event moves the program at a position on. -/
def advances (n : Nat) : Event ℓ → Bool
  | .start _ => false
  | .advance m => m = n

/-- The program makes at most so many calls. -/
def Within : Nat → Program Op Res α → Prop
  | _, .done _ => True
  | 0, .call _ _ => False
  | k + 1, .call _ next => ∀ r, Within k (next r)

theorem Within.succ {k : Nat} {p : Program Op Res α} (h : Within k p) : Within (k + 1) p := by
  induction k generalizing p with
  | zero =>
      cases p with
      | done a => trivial
      | call op next => cases h
  | succ k ih =>
      cases p with
      | done a => trivial
      | call op next => exact fun r => ih (h r)

/-- A program that makes at most `k` calls has ended once it was advanced `k` times. -/
theorem ended_of_advanced {c : System σ Op Res α} {n k : Nat} {p : Program Op Res α}
    {events : List (Event ℓ)} (hp : c.pool[n]? = some p) (hk : Within k p)
    (hcount : k ≤ events.countP (advances n)) :
    ∃ a, (run (step perform program) c events).pool[n]? = some (.done a) := by
  induction events generalizing c k p with
  | nil =>
      cases p with
      | done a => exact ⟨a, hp⟩
      | call op next =>
          rw [List.countP_nil, Nat.le_zero] at hcount
          rw [hcount] at hk
          cases hk
  | cons e events ih =>
      rw [run_cons]
      by_cases he : advances n e = true
      · rw [List.countP_cons_of_pos he] at hcount
        cases e with
        | start label => cases he
        | advance m =>
            cases of_decide_eq_true he
            cases p with
            | done a =>
                rw [step_advance_done hp]
                exact ih hp (p := .done a) (k := 0) trivial (Nat.zero_le _)
            | call op next =>
                have hlt := (List.getElem?_eq_some_iff.mp hp).1
                cases k with
                | zero => cases hk
                | succ k =>
                    rw [step_advance_call hp]
                    exact ih (List.getElem?_set_self hlt) (hk _) (by omega)
      · rw [List.countP_cons_of_neg he] at hcount
        refine ih (getElem?_step_of_ne hp ?_) hk hcount
        rintro rfl
        exact he (decide_eq_true rfl)

end Ending

section Isolation

variable {ν : Type}

/-- A part of the store that some of the operations work on and the others leave alone. -/
structure Separates (perform : σ → (op : Op) → σ × Res op) (view : σ → ν) (mine : Op → Prop) :
    Prop where
  result : ∀ {op s t}, mine op → view s = view t → (perform s op).2 = (perform t op).2
  inside : ∀ {op s t}, mine op → view s = view t → view (perform s op).1 = view (perform t op).1
  outside : ∀ {op s}, ¬mine op → view (perform s op).1 = view s

/-- The event starts a program or moves one on whose label is among those that are followed. -/
def follows (own : ℓ → Bool) (labels : List ℓ) : Event ℓ → Bool
  | .start _ => true
  | .advance n => (labels[n]?).any own

variable {view : σ → ν} {mine : Op → Prop} {own : ℓ → Bool} {s : σ} {labels : List ℓ}

/-- The two systems agree on the part of the store and on the programs that work on it. -/
structure Agree (view : σ → ν) (own : ℓ → Bool) (labels : List ℓ) (c d : System σ Op Res α) :
    Prop where
  view : view c.store = view d.store
  length : c.pool.length = d.pool.length
  pool : ∀ {n : Nat} {label : ℓ}, labels[n]? = some label → own label = true → c.pool[n]? = d.pool[n]?

theorem Agree.step {c d : System σ Op Res α} (hsep : Separates perform view mine)
    (h : Agree view own labels c d)
    (hcalls : ∀ (n : Nat) (label : ℓ) (p : Program Op Res α), labels[n]? = some label →
      c.pool[n]? = some p →
      if own label then p.Calls mine else p.Calls fun op => ¬mine op)
    (hlabels : c.pool.length ≤ labels.length) (e : Event ℓ) :
    Agree view own labels (c.step perform program e)
      (if follows own labels e then d.step perform program e else d) := by
  cases e with
  | start label =>
      rw [follows, if_pos rfl]
      refine ⟨h.view, by simp [System.step, h.length], fun hn hown => ?_⟩
      simp only [System.step, List.getElem?_append, h.length, h.pool hn hown]
  | advance n =>
      cases hc : c.pool[n]? with
      | none =>
          have hd : d.pool[n]? = none := by
            rw [List.getElem?_eq_none_iff, ← h.length]
            exact List.getElem?_eq_none_iff.mp hc
          simp only [System.step, hc, hd, ite_self]
          exact h
      | some p =>
          have hlt : n < labels.length :=
            Nat.lt_of_lt_of_le (List.getElem?_eq_some_iff.mp hc).1 hlabels
          obtain ⟨label, hlabel⟩ : ∃ label, labels[n]? = some label :=
            ⟨_, List.getElem?_eq_getElem hlt⟩
          have hp := hcalls n label p hlabel hc
          have hfollows : follows own labels (.advance n : Event ℓ) = own label := by
            simp [follows, hlabel]
          rw [hfollows]
          cases hown : own label with
          | true =>
              rw [if_pos rfl]
              rw [hown, if_pos rfl] at hp
              have hd : d.pool[n]? = some p := (h.pool hlabel hown).symm.trans hc
              cases p with
              | done a =>
                  rw [step_advance_done hc, step_advance_done hd]
                  exact h
              | call op next =>
                  rw [step_advance_call hc, step_advance_call hd, hsep.result hp.1 h.view]
                  refine ⟨hsep.inside hp.1 h.view, by simp [h.length], fun {m label'} hm hown' => ?_⟩
                  by_cases hne : n = m
                  · subst hne
                    have hltc := (List.getElem?_eq_some_iff.mp hc).1
                    have hltd := (List.getElem?_eq_some_iff.mp hd).1
                    rw [List.getElem?_set_self hltc, List.getElem?_set_self hltd]
                  · rw [List.getElem?_set_ne hne, List.getElem?_set_ne hne]
                    exact h.pool hm hown'
          | false =>
              simp only [Bool.false_eq_true, if_false]
              rw [hown] at hp
              simp only [Bool.false_eq_true, if_false] at hp
              cases p with
              | done a =>
                  rw [step_advance_done hc]
                  exact h
              | call op next =>
                  rw [step_advance_call hc]
                  refine ⟨(hsep.outside hp.1).trans h.view, by simp [h.length],
                    fun {m label'} hm hown' => ?_⟩
                  have hne : n ≠ m := by
                    rintro rfl
                    rw [hlabel] at hm
                    cases hm
                    rw [hown] at hown'
                    cases hown'
                  rw [List.getElem?_set_ne hne]
                  exact h.pool hm hown'

/-- Programs on another part of the store are not noticed: without their calls the run leaves the
same part of the store and the same programs on it. -/
theorem isolated (hsep : Separates perform view mine)
    (hown : ∀ label, own label = true → (program label).Calls mine)
    (hother : ∀ label, own label = false → (program label).Calls fun op => ¬mine op)
    (events : List (Event ℓ)) :
    Agree view own (started events) (reached perform program s events)
      (reached perform program s (events.filter (follows own (started events)))) := by
  suffices h : ∀ before, started before <+: started events →
      Agree view own (started events) (reached perform program s before)
        (reached perform program s (before.filter (follows own (started events)))) from
    h events List.prefix_rfl
  intro before
  induction before using List.reverseRecOn with
  | nil => exact fun _ => ⟨rfl, rfl, fun _ _ => rfl⟩
  | append_singleton before e ih =>
      intro hprefix
      rw [started_append] at hprefix
      have hearlier := (List.prefix_append (started before) (started [e])).trans hprefix
      have hlabels : (reached perform program s before).pool.length ≤ (started events).length := by
        rw [length_reached]
        exact hearlier.length_le
      have hcalls : ∀ (n : Nat) (label : ℓ) (p : Program Op Res α),
          (started events)[n]? = some label →
          (reached perform program s before).pool[n]? = some p →
          if own label then p.Calls mine else p.Calls fun op => ¬mine op := by
        intro n label p hlabel hp
        have hlt := (List.getElem?_eq_some_iff.mp hp).1
        rw [length_reached] at hlt
        have hbefore : (started before)[n]? = some label := by
          obtain ⟨rest, hrest⟩ := hearlier
          rwa [← hrest, List.getElem?_append_left hlt] at hlabel
        refine labelled_reached
          (I := fun label p _ => if own label then p.Calls mine else p.Calls fun op => ¬mine op)
          (fun label _ => ?_) (fun _ _ _ _ h => h) (fun label op next _ h => ?_) hbefore hp
        · split
          · rename_i h
            exact hown label h
          · rename_i h
            exact hother label (Bool.eq_false_iff.mpr h)
        · cases hlabelOwn : own label with
          | true =>
              rw [hlabelOwn] at h
              exact h.2 _
          | false =>
              rw [hlabelOwn] at h
              exact h.2 _
      have hstep : Agree view own (started events)
          ((reached perform program s before).step perform program e) _ :=
        (ih hearlier).step hsep hcalls hlabels e
      rw [List.filter_append, reached_snoc]
      cases hfollows : follows own (started events) e with
      | true =>
          rw [hfollows, if_pos rfl] at hstep
          rw [List.filter_cons_of_pos hfollows, List.filter_nil, reached_snoc]
          exact hstep
      | false =>
          rw [hfollows] at hstep
          rw [List.filter_cons_of_neg (by simp [hfollows]), List.filter_nil, List.append_nil]
          exact hstep

end Isolation

end System

end StateMachine
