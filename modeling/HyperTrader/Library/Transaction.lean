import Mathlib.Logic.Function.Basic
import Mathlib.Tactic.Basic

/-!
# Transactions and actions over a state

A transaction reads and writes a state and either commits with a result or
fails. `atomically` runs one: a failure leaves the state as it was, whatever
had been written before it. An action is the code around transactions: it keeps
what it wrote when it fails. Proofs invert a successful run into the successful
runs of its parts, so every combinator comes with the lemma that says when it
succeeds.
-/

namespace Library

universe u v w

def require {ε : Type*} (holds : Prop) [Decidable holds] (failure : ε) : Except ε Unit :=
  if holds then .ok () else .error failure

variable {holds : Prop}

@[simp] theorem require_eq_ok {ε : Type*} [Decidable holds]
    {failure : ε} {u : Unit} : require holds failure = .ok u ↔ holds := by
  unfold require
  split <;> simp_all

theorem require_of {ε : Type*} [Decidable holds] {failure : ε}
    (h : holds) : require holds failure = .ok () := by
  simp [require, h]

@[simp] theorem except_bind_eq_ok {ε : Type v} {α β : Type u} {x : Except ε α}
    {f : α → Except ε β} {b : β} : (x >>= f) = .ok b ↔ ∃ a, x = .ok a ∧ f a = .ok b := by
  cases x with
  | error e => simp [bind, Except.bind]
  | ok a => simp [bind, Except.bind]

def Transaction (σ : Type v) (ε : Type w) (α : Type u) :=
  σ → Except ε (α × σ)

namespace Transaction

variable {σ : Type v} {ε : Type w} {α β : Type u}

instance : Monad (Transaction σ ε) where
  pure a := fun s => .ok (a, s)
  bind x f := fun s =>
    match x s with
    | .ok (a, s') => f a s'
    | .error e => .error e

def read {σ : Type u} : Transaction σ ε σ := fun s => .ok (s, s)

def check (f : σ → Except ε α) : Transaction σ ε α := fun s =>
  match f s with
  | .ok a => .ok (a, s)
  | .error e => .error e

def write (f : σ → Except ε σ) : Transaction σ ε Unit := fun s =>
  match f s with
  | .ok s' => .ok ((), s')
  | .error e => .error e

def ensure (holds : Prop) [Decidable holds] (failure : ε) : Transaction σ ε Unit :=
  check fun _ => require holds failure

def fail (failure : ε) : Transaction σ ε α := fun _ => .error failure

variable {a : α} {s s' : σ} {failure : ε} {u : Unit}

@[simp] theorem pure_eq_ok {b : α} :
    (pure a : Transaction σ ε α) s = .ok (b, s') ↔ a = b ∧ s = s' := by
  change Except.ok (a, s) = .ok (b, s') ↔ _
  simp

@[simp] theorem bind_eq_ok {x : Transaction σ ε α} {f : α → Transaction σ ε β} {b : β} :
    (x >>= f) s = .ok (b, s') ↔
      ∃ a t, x s = .ok (a, t) ∧ f a t = .ok (b, s') := by
  change (match x s with
    | .ok (a, t) => f a t
    | .error e => .error e) = _ ↔ _
  cases h : x s with
  | error e => simp
  | ok r =>
    obtain ⟨a, t⟩ := r
    constructor
    · intro h'
      exact ⟨a, t, rfl, h'⟩
    · rintro ⟨a', t', ha, h'⟩
      cases ha
      exact h'

@[simp] theorem read_eq_ok {σ : Type u} {s s' t : σ} :
    (read : Transaction σ ε σ) s = .ok (t, s') ↔ s = t ∧ s = s' := by
  simp [read]

@[simp] theorem check_eq_ok {f : σ → Except ε α} :
    check f s = .ok (a, s') ↔ f s = .ok a ∧ s = s' := by
  unfold check
  cases f s <;> simp

@[simp] theorem ensure_eq_ok {holds : Prop} [Decidable holds] :
    (ensure holds failure : Transaction σ ε Unit) s = .ok (u, s') ↔
      holds ∧ s = s' := by
  simp [ensure]

@[simp] theorem write_eq_ok {f : σ → Except ε σ} : write f s = .ok (u, s') ↔ f s = .ok s' := by
  unfold write
  cases f s <;> simp

@[simp] theorem fail_eq_ok : (fail failure : Transaction σ ε α) s = .ok (a, s') ↔ False := by
  simp [fail]

end Transaction

/-- A computation on a state of type `σ` that may fail, and keeps what it wrote
before it failed. -/
def Action (σ : Type v) (ε : Type w) (α : Type u) := σ → Except ε α × σ

namespace Action

variable {σ : Type v} {ε : Type w} {α β : Type u}

instance : Monad (Action σ ε) where
  pure a := fun s => (.ok a, s)
  bind x f := fun s =>
    match x s with
    | (.ok a, s') => f a s'
    | (.error e, s') => (.error e, s')

def get {σ : Type u} : Action σ ε σ := fun s => (.ok s, s)

def modify (f : σ → σ) : Action σ ε Unit := fun s => (.ok (), f s)

def check (result : Except ε α) : Action σ ε α := fun s => (result, s)

def fail (failure : ε) : Action σ ε α := fun s => (.error failure, s)

/-- Runs `handler` when the action fails, on what the action had written. -/
def handle (x : Action σ ε α) (handler : Action σ ε α) : Action σ ε α := fun s =>
  match x s with
  | (.ok a, s') => (.ok a, s')
  | (.error _, s') => handler s'

theorem bind_apply (x : Action σ ε α) (f : α → Action σ ε β) (s : σ) :
    (x >>= f) s =
      match x s with
      | (.ok a, s') => f a s'
      | (.error e, s') => (.error e, s') := rfl

@[simp] theorem pure_apply (a : α) (s : σ) :
    (pure a : Action σ ε α) s = (.ok a, s) := rfl

@[simp] theorem get_apply {σ : Type u} (s : σ) :
    (get : Action σ ε σ) s = (.ok s, s) := rfl

@[simp] theorem modify_apply (f : σ → σ) (s : σ) :
    (modify f : Action σ ε Unit) s = (.ok (), f s) := rfl

@[simp] theorem check_apply (result : Except ε α) (s : σ) :
    (check result : Action σ ε α) s = (result, s) := rfl

@[simp] theorem fail_apply (failure : ε) (s : σ) :
    (fail failure : Action σ ε α) s = (.error failure, s) := rfl

variable {x : Action σ ε α} {f : α → Action σ ε β} {s s' : σ}

@[simp] theorem bind_eq_ok {b : β} :
    (x >>= f) s = (.ok b, s') ↔
      ∃ a t, x s = (.ok a, t) ∧ f a t = (.ok b, s') := by
  rw [bind_apply]
  obtain ⟨result, t⟩ := x s
  cases result with
  | error e => simp
  | ok a =>
    constructor
    · intro h
      exact ⟨a, t, rfl, h⟩
    · rintro ⟨a', t', ha, h⟩
      cases ha
      exact h

theorem bind_eq_error {e : ε} :
    (x >>= f) s = (.error e, s') ↔
      x s = (.error e, s') ∨
        ∃ a t, x s = (.ok a, t) ∧ f a t = (.error e, s') := by
  rw [bind_apply]
  obtain ⟨result, t⟩ := x s
  cases result with
  | error e' => simp
  | ok a =>
    constructor
    · intro h
      exact .inr ⟨a, t, rfl, h⟩
    · rintro (h | ⟨a', t', ha, h⟩)
      · cases h
      · cases ha
        exact h

end Action

namespace Transaction

variable {σ : Type v} {ε : Type w} {α β : Type u}

/-- Runs `operation`; a failure, of the operation or of the store itself
(`fault`), leaves the state as it was. -/
def atomically (fault : Option ε) (operation : Transaction σ ε α) :
    Action σ ε α := fun s =>
  match fault, operation s with
  | some e, _ => (.error e, s)
  | none, .ok (a, s') => (.ok a, s')
  | none, .error e => (.error e, s)

variable {fault : Option ε} {operation : Transaction σ ε α} {s s' : σ}

/-- A transaction that returns met no fault and committed what it did. -/
theorem atomically_eq_ok {a : α} :
    atomically fault operation s = (.ok a, s') ↔
      fault = none ∧ operation s = .ok (a, s') := by
  unfold atomically
  cases fault with
  | some e => simp
  | none =>
    cases h : operation s with
    | error e => simp
    | ok r =>
      obtain ⟨b, t⟩ := r
      simp

/-- A transaction that throws changes nothing. -/
theorem atomically_error {e : ε} (h : atomically fault operation s = (.error e, s')) : s' = s := by
  unfold atomically at h
  cases fault with
  | some e' =>
    simp only [Prod.mk.injEq] at h
    exact h.2.symm
  | none =>
    cases hop : operation s with
    | error e' =>
      simp only [hop, Prod.mk.injEq] at h
      exact h.2.symm
    | ok r => simp [hop] at h

/-- What an atomic run leaves behind: the state it began with, or the state its
operation committed. -/
theorem atomically_cases (fault : Option ε) (operation : Transaction σ ε α) (s : σ) :
    (atomically fault operation s).2 = s ∨
      ∃ a s', operation s = .ok (a, s') ∧
        atomically fault operation s = (.ok a, s') := by
  cases h : atomically fault operation s with
  | mk result s' =>
    cases result with
    | error e => exact .inl (atomically_error h)
    | ok a => exact .inr ⟨a, s', (atomically_eq_ok.mp h).2, rfl⟩

end Transaction

end Library
