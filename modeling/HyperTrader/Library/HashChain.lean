import Mathlib.Data.List.Induction

/-!
# Chains of linked entries

An entry carries the root of the entry before it and a root of its own. Along a
chain each entry carries the root the one before it ends with, so the root the
chain ends with stands for the whole of it: where distinct entries have distinct
roots, two chains of one length that end with one root are the same chain
(`Linked.eq_of_head`).
-/

namespace Library

variable {α ρ : Type*} {prior root : α → ρ}

/-- Each entry carries the root the chain so far ends with, from `start` on. -/
def Linked (prior root : α → ρ) : ρ → List α → Prop
  | _, [] => True
  | start, entry :: entries =>
    prior entry = start ∧ Linked prior root (root entry) entries

def chainHead (root : α → ρ) (start : ρ) (entries : List α) : ρ :=
  (entries.getLast?.map root).getD start

@[simp] theorem chainHead_nil (root : α → ρ) (start : ρ) :
    chainHead root start [] = start := rfl

@[simp] theorem chainHead_append_singleton (root : α → ρ) (start : ρ)
    (entries : List α) (entry : α) : chainHead root start (entries ++ [entry]) = root entry := by
  simp [chainHead]

theorem chainHead_cons (root : α → ρ) (start : ρ) (entry : α) (entries : List α) :
    chainHead root start (entry :: entries) = chainHead root (root entry) entries := by
  cases entries with
  | nil => rfl
  | cons next entries => simp [chainHead, List.getLast?_cons]

variable {start : ρ} {entries : List α}

theorem linked_append_singleton {entry : α} :
    Linked prior root start (entries ++ [entry]) ↔
      Linked prior root start entries ∧
        prior entry = chainHead root start entries := by
  induction entries generalizing start with
  | nil => simp [Linked]
  | cons first entries ih =>
    rw [List.cons_append, Linked, Linked, ih, chainHead_cons, and_assoc]

/-- **A root stands for its chain.** Two chains of one length that end with one
root are equal; the induction is on the last entries, which have the same root,
hence the same prior root. -/
theorem Linked.eq_of_head {others : List α} (hentries : Linked prior root start entries)
    (hothers : Linked prior root start others)
    (hinjective : ∀ a ∈ entries, ∀ b ∈ others, root a = root b → a = b)
    (hlength : entries.length = others.length)
    (hhead : chainHead root start entries = chainHead root start others) : entries = others := by
  induction entries using List.reverseRecOn generalizing others with
  | nil => exact (List.length_eq_zero_iff.mp hlength.symm).symm
  | append_singleton entries entry ih =>
    induction others using List.reverseRecOn with
    | nil => simp at hlength
    | append_singleton others other _ =>
      rw [linked_append_singleton] at hentries hothers
      rw [chainHead_append_singleton, chainHead_append_singleton] at hhead
      have hsame : entry = other :=
        hinjective entry (by simp) other (by simp) hhead
      have hrest : entries = others := by
        apply ih hentries.1 hothers.1
        · intro a ha b hb
          exact hinjective a (List.mem_append_left _ ha) b
            (List.mem_append_left _ hb)
        · simpa using hlength
        · rw [← hentries.2, ← hothers.2, hsame]
      rw [hsame, hrest]

end Library
