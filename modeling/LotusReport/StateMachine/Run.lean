import Mathlib.Data.List.Basic

/-!
# Runs of a deterministic step function

A run is a list of labels executed from a state. `Along` says that every step
of the run meets a condition on its label and on the state before it; an
invariant that such steps keep holds at the end of the run, hence, applied to
the run's initial segments, in every state it passes.
-/

namespace StateMachine

variable {σ ℓ : Type*}

/-- The state after the labels were executed in order. -/
def run (step : σ → ℓ → σ) (s : σ) (labels : List ℓ) : σ := labels.foldl step s

@[simp] theorem run_nil (step : σ → ℓ → σ) (s : σ) : run step s [] = s := rfl

@[simp] theorem run_cons (step : σ → ℓ → σ) (s : σ) (l : ℓ) (ls : List ℓ) :
    run step s (l :: ls) = run step (step s l) ls := rfl

theorem run_append (step : σ → ℓ → σ) (s : σ) (ls ls' : List ℓ) :
    run step s (ls ++ ls') = run step (run step s ls) ls' := List.foldl_append

/-- Every step of the run meets `P` in the state before it. -/
def Along (step : σ → ℓ → σ) (P : σ → ℓ → Prop) : σ → List ℓ → Prop
  | _, [] => True
  | s, l :: ls => P s l ∧ Along step P (step s l) ls

instance Along.decidable (step : σ → ℓ → σ) (P : σ → ℓ → Prop) [∀ s l, Decidable (P s l)] :
    (s : σ) → (ls : List ℓ) → Decidable (Along step P s ls)
  | _, [] => isTrue trivial
  | s, l :: ls =>
      have : Decidable (Along step P (step s l) ls) := Along.decidable step P (step s l) ls
      inferInstanceAs (Decidable (P s l ∧ Along step P (step s l) ls))

theorem along_append {step : σ → ℓ → σ} {P : σ → ℓ → Prop} {s : σ} {ls ls' : List ℓ} :
    Along step P s (ls ++ ls') ↔ Along step P s ls ∧ Along step P (run step s ls) ls' := by
  induction ls generalizing s with
  | nil => simp [Along]
  | cons l ls ih => simp [Along, ih, and_assoc]

theorem along_iff {step : σ → ℓ → σ} {P : σ → ℓ → Prop} {s : σ} {ls : List ℓ} :
    Along step P s ls ↔
      ∀ before l after, ls = before ++ l :: after → P (run step s before) l := by
  constructor
  · rintro h before l after rfl
    exact (along_append.mp h).2.1
  · intro h
    induction ls generalizing s with
    | nil => trivial
    | cons l ls ih =>
        refine ⟨h [] l ls rfl, ih fun before l' after heq => ?_⟩
        exact h (l :: before) l' after (by rw [heq]; rfl)

theorem along_of_forall {step : σ → ℓ → σ} {P : σ → ℓ → Prop} {s : σ} {ls : List ℓ}
    (h : ∀ l ∈ ls, ∀ s, P s l) : Along step P s ls := by
  induction ls generalizing s with
  | nil => trivial
  | cons l ls ih =>
      exact ⟨h l List.mem_cons_self s, ih fun l' hl' => h l' (List.mem_cons_of_mem l hl')⟩

/-- An invariant kept by every step that meets `P` holds after a run that meets `P`. -/
theorem run_invariant {step : σ → ℓ → σ} {P : σ → ℓ → Prop} {I : σ → Prop}
    (hstep : ∀ s l, I s → P s l → I (step s l)) {s : σ} {ls : List ℓ}
    (hs : I s) (hP : Along step P s ls) : I (run step s ls) := by
  induction ls generalizing s with
  | nil => exact hs
  | cons l ls ih => exact ih (hstep s l hs hP.1) hP.2

/-- An invariant kept by every step holds after every run. -/
theorem run_induction {step : σ → ℓ → σ} {I : σ → Prop}
    (hstep : ∀ s l, I s → I (step s l)) {s : σ} (hs : I s) (ls : List ℓ) :
    I (run step s ls) := by
  induction ls generalizing s with
  | nil => exact hs
  | cons l ls ih => exact ih (hstep s l hs)

/-- If a step keeps the invariant exactly when it meets `P`, then the invariant holds in every
state of a run exactly when every step of the run meets `P`. -/
theorem run_invariant_iff {step : σ → ℓ → σ} {P : σ → ℓ → Prop} {I : σ → Prop}
    (hstep : ∀ s l, I s → (I (step s l) ↔ P s l)) {s : σ} (hs : I s) (ls : List ℓ) :
    (∀ n, I (run step s (ls.take n))) ↔ Along step P s ls := by
  induction ls generalizing s with
  | nil => simp [Along, hs]
  | cons l ls ih =>
      constructor
      · intro h
        have hfirst : I (step s l) := by simpa using h 1
        refine ⟨(hstep s l hs).mp hfirst, (ih hfirst).mp fun n => ?_⟩
        simpa using h (n + 1)
      · rintro ⟨hl, hls⟩ n
        have hfirst := (hstep s l hs).mpr hl
        cases n with
        | zero => simpa using hs
        | succ n => simpa using (ih hfirst).mpr hls n

/-- Let the steps keep an invariant `I`, and let a step from a good state end in a good state
exactly when it meets `P`. If no step mends a state that is not good, then a run ends in a good
state exactly when all of its steps meet `P`. -/
theorem run_final_iff {step : σ → ℓ → σ} {P : σ → ℓ → Prop} {I Good : σ → Prop}
    (hI : ∀ s l, I s → I (step s l)) (hstep : ∀ s l, I s → Good s → (Good (step s l) ↔ P s l))
    (hlost : ∀ s l, ¬ Good s → ¬ Good (step s l)) {s : σ} (hs : I s) (hgood : Good s)
    (ls : List ℓ) : Good (run step s ls) ↔ Along step P s ls := by
  induction ls generalizing s with
  | nil => exact ⟨fun _ => trivial, fun _ => hgood⟩
  | cons l ls ih =>
      by_cases hnext : Good (step s l)
      · rw [run_cons, ih (hI s l hs) hnext]
        exact ⟨fun h => ⟨(hstep s l hs hgood).mp hnext, h⟩, fun h => h.2⟩
      · have hend : ¬ Good (run step (step s l) ls) :=
          run_induction (I := fun t => ¬ Good t) hlost hnext ls
        rw [run_cons]
        exact ⟨fun h => absurd h hend, fun h => absurd ((hstep s l hs hgood).mpr h.1) hnext⟩

end StateMachine
