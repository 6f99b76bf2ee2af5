import Mathlib.Data.List.Basic

/-!
# What came before in a log

`Since p q log` says that an entry with `p` is in the log and none with `q` after it, the
"since" of temporal logics of the past. `Preceded r log` says that every entry of the log
stands in `r` to those before it. Both are kept when the log grows.
-/

namespace Library

variable {α : Type*} {p q : α → Prop} {log new : List α}

/-- An entry with `p` was logged, and none with `q` after it. -/
def Since (p q : α → Prop) (log : List α) : Prop :=
  ∃ earlier entry later, log = earlier ++ entry :: later ∧ p entry ∧ ∀ other ∈ later, ¬ q other

theorem Since.append (h : Since p q log) (hnew : ∀ entry ∈ new, ¬ q entry) :
    Since p q (log ++ new) := by
  obtain ⟨earlier, entry, later, rfl, hentry, hlater⟩ := h
  refine ⟨earlier, entry, later ++ new, by simp, hentry, ?_⟩
  intro other hother
  rcases List.mem_append.mp hother with hmem | hmem
  · exact hlater other hmem
  · exact hnew other hmem

theorem since_of_mem {entry : α} (hmem : entry ∈ new) (hentry : p entry)
    (hnew : ∀ other ∈ new, ¬ q other) : Since p q (log ++ new) := by
  obtain ⟨earlier, later, rfl⟩ := List.append_of_mem hmem
  refine ⟨log ++ earlier, entry, later, by simp, hentry, ?_⟩
  intro other hother
  exact hnew other (List.mem_append_right _ (List.mem_cons_of_mem _ hother))

/-- Every entry stands in `r` to those before it. -/
def Preceded (r : List α → α → Prop) (log : List α) : Prop :=
  ∀ earlier entry later, log = earlier ++ entry :: later → r earlier entry

variable {r : List α → α → Prop}

theorem preceded_nil : Preceded r [] := by
  intro earlier entry later h
  simp at h

theorem Preceded.append (h : Preceded r log)
    (hnew : ∀ earlier entry later, new = earlier ++ entry :: later → r (log ++ earlier) entry) :
    Preceded r (log ++ new) := by
  intro earlier entry later heq
  rcases List.append_eq_append_iff.mp heq with ⟨middle, rfl, hrest⟩ | ⟨middle, hlog, hrest⟩
  · exact hnew middle entry later hrest
  · cases middle with
    | nil =>
      rw [List.append_nil] at hlog
      have hfirst := hnew [] entry later hrest.symm
      rw [List.append_nil, hlog] at hfirst
      exact hfirst
    | cons first middle =>
      obtain ⟨rfl, -⟩ := List.cons.inj hrest
      exact h earlier entry middle hlog

end Library
