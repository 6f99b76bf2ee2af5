import Mathlib.Logic.Relation
import Mathlib.Data.List.Basic

/-!
# Runs of a machine

A machine is a function that takes a state and an event to the next state; an
event that is not enabled leaves the state as it is, so every list of events is
a run. The rules here lift what one step preserves to whole runs: an invariant,
a relation between the first and the last state, and an invariant that needs a
condition on the steps taken.
-/

namespace Library

variable {σ ε : Type*}

/-- The state after the events of `events`, from `s`. -/
def run (step : σ → ε → σ) (s : σ) (events : List ε) : σ :=
  events.foldl step s

@[simp] theorem run_nil (step : σ → ε → σ) (s : σ) : run step s [] = s := rfl

@[simp] theorem run_cons (step : σ → ε → σ) (s : σ) (e : ε) (es : List ε) :
    run step s (e :: es) = run step (step s e) es := rfl

theorem run_append (step : σ → ε → σ) (s : σ) (es fs : List ε) :
    run step s (es ++ fs) = run step (run step s es) fs :=
  List.foldl_append

/-- Every step of the run from `s` meets `condition`, which sees the state
before the step and the event. -/
def Along (step : σ → ε → σ) (condition : σ → ε → Prop) : σ → List ε → Prop
  | _, [] => True
  | s, e :: es => condition s e ∧ Along step condition (step s e) es

@[simp] theorem along_nil (step : σ → ε → σ) (condition : σ → ε → Prop)
    (s : σ) : Along step condition s [] := trivial

@[simp] theorem along_cons (step : σ → ε → σ) (condition : σ → ε → Prop)
    (s : σ) (e : ε) (es : List ε) :
    Along step condition s (e :: es) ↔
      condition s e ∧ Along step condition (step s e) es := Iff.rfl

instance Along.decidable (step : σ → ε → σ) (condition : σ → ε → Prop)
    [∀ s e, Decidable (condition s e)] :
    ∀ (s : σ) (es : List ε), Decidable (Along step condition s es)
  | _, [] => inferInstanceAs (Decidable True)
  | s, e :: es =>
    have := Along.decidable step condition (step s e) es
    inferInstanceAs (Decidable (condition s e ∧ _))

variable {step : σ → ε → σ} {condition : σ → ε → Prop} {s : σ} {es : List ε} {inv : σ → Prop}

theorem along_of_forall (h : ∀ s e, condition s e) (s : σ) (es : List ε) :
    Along step condition s es := by
  induction es generalizing s with
  | nil => trivial
  | cons e es ih => exact ⟨h s e, ih _⟩

/-- A condition that holds of every event at first and that no step takes from an event
is met along the run. -/
theorem along_of_stable (hstable : ∀ s e later, condition s later → condition (step s e) later)
    (h : ∀ e ∈ es, condition s e) : Along step condition s es := by
  induction es generalizing s with
  | nil => trivial
  | cons e es ih =>
    refine ⟨h e List.mem_cons_self, ih ?_⟩
    intro later hlater
    exact hstable s e later (h later (List.mem_cons_of_mem e hlater))

theorem along_and {p q : σ → ε → Prop} :
    Along step (fun s e => p s e ∧ q s e) s es ↔
      Along step p s es ∧ Along step q s es := by
  induction es generalizing s with
  | nil => simp
  | cons e es ih =>
    rw [along_cons, along_cons, along_cons, ih]
    exact and_and_and_comm

theorem along_iff_of_invariant {step : σ → ε → σ} {p q : σ → ε → Prop} {inv : σ → Prop}
    (hinv : ∀ s e, inv s → inv (step s e)) (h : ∀ s e, inv s → (p s e ↔ q s e)) {s : σ}
    (hs : inv s) (es : List ε) : Along step p s es ↔ Along step q s es := by
  induction es generalizing s with
  | nil => simp
  | cons e es ih => rw [along_cons, along_cons, h s e hs, ih (hinv s e hs)]

/-- Conditions that agree in the states of an invariant, which the steps that meet the
second keep, are met along the same runs. -/
theorem along_iff_of_kept {step : σ → ε → σ} {p q : σ → ε → Prop} {inv : σ → Prop}
    (h : ∀ s e, inv s → (p s e ↔ q s e)) (hinv : ∀ s e, inv s → q s e → inv (step s e))
    {s : σ} (hs : inv s) (es : List ε) : Along step p s es ↔ Along step q s es := by
  induction es generalizing s with
  | nil => simp
  | cons e es ih =>
    rw [along_cons, along_cons, h s e hs]
    exact and_congr_right fun hq => ih (hinv s e hs hq)

theorem along_append (step : σ → ε → σ) (condition : σ → ε → Prop) (s : σ) (es fs : List ε) :
    Along step condition s (es ++ fs) ↔
      Along step condition s es ∧ Along step condition (run step s es) fs := by
  induction es generalizing s with
  | nil => simp
  | cons e es ih => simp [ih, and_assoc]

/-- An invariant that every step meeting the condition keeps holds at the end
of every run whose steps all meet it. -/
theorem run_invariant_along {step : σ → ε → σ} {condition : σ → ε → Prop}
    {inv : σ → Prop} (hstep : ∀ s e, inv s → condition s e → inv (step s e))
    {s : σ} {es : List ε} (hs : inv s) (hes : Along step condition s es) : inv (run step s es) := by
  induction es generalizing s with
  | nil => exact hs
  | cons e es ih => exact ih (hstep s e hs hes.1) hes.2

/-- What every step keeps, every run keeps. -/
theorem run_invariant (hstep : ∀ s e, inv s → inv (step s e)) (hs : inv s)
    (es : List ε) : inv (run step s es) := by
  induction es generalizing s with
  | nil => exact hs
  | cons e es ih => exact ih (hstep s e hs)

/-- A relation that every step from a state of the invariant extends relates
the first state of a run to its last. -/
theorem run_relation {r : σ → σ → Prop}
    (hrefl : ∀ s, r s s) (htrans : ∀ s t u, r s t → r t u → r s u)
    (hinv : ∀ s e, inv s → inv (step s e)) (hstep : ∀ s e, inv s → r s (step s e)) (hs : inv s)
    (es : List ε) : r s (run step s es) := by
  induction es generalizing s with
  | nil => exact hrefl s
  | cons e es ih =>
    exact htrans _ _ _ (hstep s e hs) (ih (hinv s e hs))

/-- How many steps of the run from `s` are of a kind. -/
def countSteps (step : σ → ε → σ) (kind : σ → ε → Bool) : σ → List ε → ℕ
  | _, [] => 0
  | s, e :: es => (kind s e).toNat + countSteps step kind (step s e) es

theorem measure_run {kind : σ → ε → Bool} {measure : σ → ℕ} (hinv : ∀ s e, inv s → inv (step s e))
    (hstep : ∀ s e, inv s → measure (step s e) = measure s + (kind s e).toNat)
    (hs : inv s) (es : List ε) :
    measure (run step s es) = measure s + countSteps step kind s es := by
  induction es generalizing s with
  | nil => rfl
  | cons e es ih => rw [run_cons, ih (hinv s e hs), hstep s e hs, countSteps, Nat.add_assoc]

/-- Events that each act on a part of the state of their own: among events that differ, an
event changes its part as it does alone, wherever it comes. -/
theorem view_run_of_isolated {ν : Type*} {step : σ → ε → σ} {view : ε → σ → ν}
    (hframe : ∀ s e other, other ≠ e → view e (step s other) = view e s)
    (hlocal : ∀ s t e, view e s = view e t → view e (step s e) = view e (step t e)) {s : σ}
    {e : ε} {es : List ε} (hes : es.Nodup) (he : e ∈ es) :
    view e (run step s es) = view e (step s e) := by
  have hothers : ∀ (rest : List ε) (t : σ), e ∉ rest → view e (run step t rest) = view e t := by
    intro rest
    induction rest with
    | nil => exact fun t _ => rfl
    | cons other rest ih =>
      intro t hmem
      rw [List.mem_cons, not_or] at hmem
      rw [run_cons, ih (step t other) hmem.2]
      exact hframe t e other (Ne.symm hmem.1)
  obtain ⟨before, after, rfl⟩ := List.append_of_mem he
  obtain ⟨-, hafter, hdisjoint⟩ := List.nodup_append.mp hes
  have hbefore : e ∉ before := fun hmem =>
    hdisjoint e hmem e List.mem_cons_self rfl
  rw [run_append, run_cons, hothers after _ (List.nodup_cons.mp hafter).1]
  exact hlocal _ _ e (hothers before s hbefore)

end Library
