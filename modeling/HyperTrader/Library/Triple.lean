import HyperTrader.Library.Transaction

/-!
# Pre- and postconditions of actions

An action meets a specification when, from every state of its precondition, it
returns in a state of the postcondition or throws in a state that a third
condition describes: what an action wrote before it threw is kept, so a thrower
has a postcondition of its own. There is one rule for each combinator.
-/

namespace Library

namespace Action

universe u v w

variable {σ : Type v} {ε : Type w} {α β : Type u}

/-- From a state of `pre` the action returns in a state of `post` or throws in
one of `raises`. -/
structure Meets (pre : σ → Prop) (x : Action σ ε α) (post : α → σ → Prop)
    (raises : σ → Prop) : Prop where
  returns : ∀ s a s', pre s → x s = (.ok a, s') → post a s'
  throws : ∀ s e s', pre s → x s = (.error e, s') → raises s'

namespace Meets

variable {pre raises : σ → Prop} {post : α → σ → Prop}

theorem pure {a : α} (h : ∀ s, pre s → post a s) :
    Meets pre (Pure.pure a : Action σ ε α) post raises where
  returns s b s' hs hrun := by
    rw [pure_apply, Prod.mk.injEq] at hrun
    obtain ⟨hb, rfl⟩ := hrun
    cases hb
    exact h s hs
  throws s e s' _ hrun := by
    rw [pure_apply, Prod.mk.injEq] at hrun
    cases hrun.1

variable {x : Action σ ε α} {f : α → Action σ ε β} {result : Except ε α}

theorem bind {mid : α → σ → Prop} {post : β → σ → Prop} (hx : Meets pre x mid raises)
    (hf : ∀ a, Meets (mid a) (f a) post raises) :
    Meets pre (x >>= f) post raises where
  returns s b s' hs hrun := by
    obtain ⟨a, t, hfirst, hrest⟩ := bind_eq_ok.mp hrun
    exact (hf a).returns t b s' (hx.returns s a t hs hfirst) hrest
  throws s e s' hs hrun := by
    rcases bind_eq_error.mp hrun with hfirst | ⟨a, t, hfirst, hrest⟩
    · exact hx.throws s e s' hs hfirst
    · exact (hf a).throws t e s' (hx.returns s a t hs hfirst) hrest

theorem check (hraises : ∀ s, pre s → raises s)
    (hpost : ∀ a, result = .ok a → ∀ s, pre s → post a s) :
    Meets pre (Action.check result) post raises where
  returns s a s' hs hrun := by
    rw [check_apply, Prod.mk.injEq] at hrun
    obtain ⟨hresult, rfl⟩ := hrun
    exact hpost a hresult s hs
  throws s e s' hs hrun := by
    rw [check_apply, Prod.mk.injEq] at hrun
    obtain ⟨-, rfl⟩ := hrun
    exact hraises s hs

/-- A check either throws here or hands on what it returned. -/
theorem check_bind {post : β → σ → Prop} (hraises : ∀ s, pre s → raises s)
    (hf : ∀ a, result = .ok a → Meets pre (f a) post raises) :
    Meets pre (Action.check result >>= f) post raises where
  returns s b s' hs hrun := by
    obtain ⟨a, t, hcheck, hrest⟩ := bind_eq_ok.mp hrun
    rw [check_apply, Prod.mk.injEq] at hcheck
    obtain ⟨hresult, rfl⟩ := hcheck
    exact (hf a hresult).returns s b s' hs hrest
  throws s e s' hs hrun := by
    rcases bind_eq_error.mp hrun with hcheck | ⟨a, t, hcheck, hrest⟩
    · rw [check_apply, Prod.mk.injEq] at hcheck
      obtain ⟨-, rfl⟩ := hcheck
      exact hraises s hs
    · rw [check_apply, Prod.mk.injEq] at hcheck
      obtain ⟨hresult, rfl⟩ := hcheck
      exact (hf a hresult).throws s e s' hs hrest

theorem get_bind {σ : Type u} {pre raises : σ → Prop} {post : β → σ → Prop} {f : σ → Action σ ε β}
    (hf : ∀ s, Meets (fun t => t = s ∧ pre t) (f s) post raises) :
    Meets pre (Action.get >>= f) post raises where
  returns s b s' hs hrun := (hf s).returns s b s' ⟨rfl, hs⟩ hrun
  throws s e s' hs hrun := (hf s).throws s e s' ⟨rfl, hs⟩ hrun

theorem modify {g : σ → σ} {post : PUnit → σ → Prop} (h : ∀ s, pre s → post ⟨⟩ (g s)) :
    Meets pre (Action.modify g : Action σ ε PUnit) post raises where
  returns s a s' hs hrun := by
    rw [modify_apply, Prod.mk.injEq] at hrun
    obtain ⟨-, rfl⟩ := hrun
    exact h s hs
  throws s e s' _ hrun := by
    rw [modify_apply, Prod.mk.injEq] at hrun
    cases hrun.1

theorem atomically {fault : Option ε} {operation : Transaction σ ε α}
    (hraises : ∀ s, pre s → raises s)
    (hpost : ∀ s a s', pre s → operation s = .ok (a, s') → post a s') :
    Meets pre (Transaction.atomically fault operation) post raises where
  returns s a s' hs hrun := hpost s a s' hs (Transaction.atomically_eq_ok.mp hrun).2
  throws s e s' hs hrun := by
    rw [Transaction.atomically_error hrun]
    exact hraises s hs

theorem handle {mid : σ → Prop} {handler : Action σ ε α}
    (hx : Meets pre x post mid) (hhandler : Meets mid handler post raises) :
    Meets pre (x.handle handler) post raises := by
  constructor
  · intro s a s' hs hrun
    unfold Action.handle at hrun
    cases hfirst : x s with
    | mk result t =>
      rw [hfirst] at hrun
      cases result with
      | ok b =>
        cases hrun
        exact hx.returns s a s' hs hfirst
      | error e =>
        exact hhandler.returns t a s' (hx.throws s e t hs hfirst) hrun
  · intro s e s' hs hrun
    unfold Action.handle at hrun
    cases hfirst : x s with
    | mk result t =>
      rw [hfirst] at hrun
      cases result with
      | ok b => cases hrun
      | error e' =>
        exact hhandler.throws t e s' (hx.throws s e' t hs hfirst) hrun

theorem weaken {pre' raises' : σ → Prop} {post' : α → σ → Prop} (h : Meets pre x post raises)
    (hpre : ∀ s, pre' s → pre s) (hpost : ∀ a s, post a s → post' a s)
    (hraises : ∀ s, raises s → raises' s) : Meets pre' x post' raises' where
  returns s a s' hs hrun := hpost a s' (h.returns s a s' (hpre s hs) hrun)
  throws s e s' hs hrun := hraises s' (h.throws s e s' (hpre s hs) hrun)

/-- Where the action ends, when it may end in the same way by a return and by a
throw. -/
theorem final {q : σ → Prop}
    (h : Meets pre x (fun _ s => q s) q) {s : σ} (hs : pre s) : q (x s).2 := by
  cases hresult : (x s).1 with
  | ok a => exact h.returns s a _ hs (Prod.ext hresult rfl)
  | error e => exact h.throws s e _ hs (Prod.ext hresult rfl)

theorem known {fact : Prop} (hfact : ∀ s, pre s → fact)
    (h : fact → Meets pre x post raises) : Meets pre x post raises where
  returns s a s' hs hrun := (h (hfact s hs)).returns s a s' hs hrun
  throws s e s' hs hrun := (h (hfact s hs)).throws s e s' hs hrun

end Meets

end Action

end Library
