import Mathlib.Data.List.Basic

/-!
# Lists of processes

The processes of a machine are kept in a list: one that starts is appended, and
one that goes on replaces its own entry, so a process keeps its index. A lookup
after either finds an old process or the new one; what every process satisfies
is kept, and keys that told the processes apart still do.
-/

namespace Library

variable {α κ : Type*} {i j : ℕ} {next process : α} {f : α → α}

/-- A process is the one just set or was there before. -/
theorem getElem?_set_cases {processes : List α} (h : (processes.set i next)[j]? = some process) :
    (j = i ∧ process = next) ∨ j ≠ i ∧ processes[j]? = some process := by
  rw [List.getElem?_set] at h
  split at h
  · rename_i hij
    split at h
    · exact .inl ⟨hij.symm, (Option.some.inj h).symm⟩
    · cases h
  · rename_i hij
    exact .inr ⟨fun hji => hij hji.symm, h⟩

/-- A process is the one just started or was there before. -/
theorem getElem?_append_cases {processes : List α} (h : (processes ++ [next])[j]? = some process) :
    processes[j]? = some process ∨ j = processes.length ∧ process = next := by
  rcases Nat.lt_or_ge j processes.length with hlt | hge
  · rw [List.getElem?_append_left hlt] at h
    exact .inl h
  · rw [List.getElem?_append_right hge, List.getElem?_singleton] at h
    split at h
    · rename_i hzero
      exact .inr ⟨by omega, (Option.some.inj h).symm⟩
    · cases h

theorem getElem?_modify_cases {processes : List α} (h : (processes.modify i f)[j]? = some process) :
    (∃ old, processes[j]? = some old ∧ j = i ∧ process = f old) ∨
      j ≠ i ∧ processes[j]? = some process := by
  rw [List.getElem?_modify, Option.map_eq_map, Option.map_eq_some_iff] at h
  obtain ⟨old, hold, hprocess⟩ := h
  by_cases hij : i = j
  · rw [if_pos hij] at hprocess
    exact .inl ⟨old, hold, hij.symm, hprocess.symm⟩
  · rw [if_neg hij] at hprocess
    cases hprocess
    exact .inr ⟨fun hji => hij hji.symm, hold⟩

theorem getElem?_modify_of_differs {processes : List α}
    (h : ∀ old, processes[i]? = some old → old ≠ process ∧ f old ≠ process) :
    (processes.modify i f)[j]? = some process ↔ processes[j]? = some process := by
  by_cases hj : i = j
  · subst hj
    rw [List.getElem?_modify_eq]
    constructor
    · intro hnew
      obtain ⟨old, hold, hf⟩ := Option.map_eq_some_iff.mp hnew
      exact absurd hf (h old hold).2
    · intro hold
      exact absurd rfl (h process hold).1
  · rw [List.getElem?_modify_ne f processes hj]

theorem lt_length_of_getElem? {processes : List α}
    (h : processes[i]? = some process) : i < processes.length :=
  (List.getElem?_eq_some_iff.mp h).1

theorem getElem?_append_of_some {processes : List α} (h : processes[i]? = some process) (next : α) :
    (processes ++ [next])[i]? = some process := by
  rw [List.getElem?_append_left (lt_length_of_getElem? h), h]

def DistinctKeys (key : α → κ) (processes : List α) : Prop :=
  ∀ (i j : ℕ) (a b : α), processes[i]? = some a → processes[j]? = some b →
    key a = key b → i = j

namespace DistinctKeys

variable {key : α → κ} {processes : List α}

theorem nil : DistinctKeys key ([] : List α) := by
  intro i j a b ha
  simp at ha

variable {next : α}

theorem set (h : DistinctKeys key processes) {i : ℕ} {process : α}
    (hprocess : processes[i]? = some process) (hkey : key next = key process) :
    DistinctKeys key (processes.set i next) := by
  intro j k a b ha hb hab
  rcases getElem?_set_cases ha with ⟨rfl, rfl⟩ | ⟨-, holda⟩ <;>
    rcases getElem?_set_cases hb with ⟨rfl, rfl⟩ | ⟨-, holdb⟩
  · rfl
  · exact h j k process b hprocess holdb (hkey.symm.trans hab)
  · exact h j k a process holda hprocess (hab.trans hkey)
  · exact h j k a b holda holdb hab

theorem append (h : DistinctKeys key processes)
    (hnew : ∀ (i : ℕ) (a : α), processes[i]? = some a → key a ≠ key next) :
    DistinctKeys key (processes ++ [next]) := by
  intro j k a b ha hb hab
  rcases getElem?_append_cases ha with holda | ⟨rfl, rfl⟩ <;>
    rcases getElem?_append_cases hb with holdb | ⟨rfl, rfl⟩
  · exact h j k a b holda holdb hab
  · exact absurd hab (hnew j a holda)
  · exact absurd hab.symm (hnew k b holdb)
  · rfl

theorem map (h : DistinctKeys key processes) {f : α → α}
    (hf : ∀ a, key (f a) = key a) : DistinctKeys key (processes.map f) := by
  intro i j a b ha hb hab
  rw [List.getElem?_map, Option.map_eq_some_iff] at ha hb
  obtain ⟨a, ha, rfl⟩ := ha
  obtain ⟨b, hb, rfl⟩ := hb
  rw [hf, hf] at hab
  exact h i j a b ha hb hab

end DistinctKeys

theorem find?_mapIdx {p : α → Bool} {f : ℕ → α → α}
    (hf : ∀ i a, p (f i a) = p a) (processes : List α) :
    (processes.find? p = none ∧ (processes.mapIdx f).find? p = none) ∨
      ∃ i a, processes.find? p = some a ∧ (processes.mapIdx f).find? p = some (f i a) := by
  induction processes generalizing f with
  | nil => exact .inl ⟨rfl, rfl⟩
  | cons a processes ih =>
    rw [List.mapIdx_cons, List.find?_cons, List.find?_cons, hf]
    cases p a with
    | true => exact .inr ⟨0, a, rfl, rfl⟩
    | false =>
      rcases ih fun i a => hf (i + 1) a with hnone | ⟨i, other, hother⟩
      · exact .inl hnone
      · exact .inr ⟨i + 1, other, hother⟩

end Library
