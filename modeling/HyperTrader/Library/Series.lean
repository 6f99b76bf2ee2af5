import Mathlib.Data.List.Induction
import Mathlib.Data.List.Sort
import Mathlib.Order.Basic

/-!
# Series collected by a key

Entries are collected by their keys: under each key stands the entry that came last, and
the series is ordered by the keys. It may be cut to its newest entries; what is cut away
is older than everything that stays.
-/

namespace Library

variable {α κ : Type*} [LinearOrder κ] {key : α → κ}

def latest (key : α → κ) (entries : List α) (k : κ) : Option α :=
  entries.reverse.find? fun entry => key entry = k

@[simp] theorem latest_nil (k : κ) : latest key [] k = none := rfl

theorem latest_append_singleton (entries : List α) (entry : α) (k : κ) :
    latest key (entries ++ [entry]) k =
      if key entry = k then some entry else latest key entries k := by
  unfold latest
  by_cases h : key entry = k
  · simp [h]
  · simp [h]

theorem latest_append (entries others : List α) (k : κ) :
    latest key (entries ++ others) k = (latest key others k).or (latest key entries k) := by
  unfold latest
  rw [List.reverse_append, List.find?_append]

variable {entries : List α} {k : κ} {entry : α} {capacity : ℕ}

theorem latest_eq_none : latest key entries k = none ↔ ∀ entry ∈ entries, key entry ≠ k := by
  simp [latest]

theorem key_of_latest (h : latest key entries k = some entry) : key entry = k := by
  simpa using List.find?_some h

theorem mem_of_latest (h : latest key entries k = some entry) : entry ∈ entries :=
  List.mem_reverse.mp (List.mem_of_find?_eq_some h)

theorem exists_latest (key : α → κ) (h : entry ∈ entries) :
    ∃ last, latest key entries (key entry) = some last := by
  cases hlatest : latest key entries (key entry) with
  | none => exact absurd rfl (latest_eq_none.mp hlatest entry h)
  | some last => exact ⟨last, rfl⟩

theorem latest_of_mem (h : entries.Pairwise fun a b => key a < key b)
    (hmem : entry ∈ entries) : latest key entries (key entry) = some entry := by
  induction entries using List.reverseRecOn with
  | nil => cases hmem
  | append_singleton entries last ih =>
    rw [List.pairwise_append] at h
    rw [latest_append_singleton]
    rcases List.mem_append.mp hmem with hold | hnew
    · have hne : key last ≠ key entry :=
        ne_of_gt (h.2.2 entry hold last (List.mem_singleton_self last))
      rw [if_neg hne]
      exact ih h.1 hold
    · rw [List.mem_singleton.mp hnew, if_pos rfl]

/-- An entry put under its key; a key that is there keeps its place. -/
def putEntry (key : α → κ) (collected : List α) (entry : α) : List α :=
  if collected.any fun old => key old = key entry then
    collected.map fun old => if key old = key entry then entry else old
  else collected ++ [entry]

def collect (key : α → κ) (entries : List α) : List α :=
  entries.foldl (putEntry key) []

theorem collect_append_singleton (entries : List α) (entry : α) :
    collect key (entries ++ [entry]) = putEntry key (collect key entries) entry := by
  simp [collect]

theorem mem_putEntry {collected : List α} {other : α} :
    other ∈ putEntry key collected entry ↔
      other = entry ∨ other ∈ collected ∧ key other ≠ key entry := by
  unfold putEntry
  split
  · rename_i hany
    obtain ⟨old, hold, hkey⟩ := List.any_eq_true.mp hany
    rw [decide_eq_true_eq] at hkey
    rw [List.mem_map]
    constructor
    · rintro ⟨before, hbefore, rfl⟩
      split
      · exact .inl rfl
      · exact .inr ⟨hbefore, ‹_›⟩
    · rintro (rfl | ⟨hmem, hne⟩)
      · exact ⟨old, hold, if_pos hkey⟩
      · exact ⟨other, hmem, if_neg hne⟩
  · rename_i hany
    rw [List.any_eq_true] at hany
    rw [List.mem_append, List.mem_singleton]
    constructor
    · rintro (hmem | rfl)
      · refine .inr ⟨hmem, fun hkey => hany ⟨other, hmem, ?_⟩⟩
        exact decide_eq_true hkey
      · exact .inl rfl
    · rintro (rfl | ⟨hmem, -⟩)
      · exact .inr rfl
      · exact .inl hmem

theorem mem_collect :
    entry ∈ collect key entries ↔ latest key entries (key entry) = some entry := by
  induction entries using List.reverseRecOn with
  | nil => simp [collect]
  | append_singleton entries last ih =>
    rw [collect_append_singleton, mem_putEntry, ih, latest_append_singleton]
    by_cases hkey : key last = key entry
    · rw [if_pos hkey, Option.some.injEq]
      simp [hkey, eq_comm]
    · rw [if_neg hkey]
      have hne : entry ≠ last := fun h => hkey (h ▸ rfl)
      simp [hne, Ne.symm hkey]

theorem collect_keys_ne (entries : List α) :
    (collect key entries).Pairwise fun a b => key a ≠ key b := by
  induction entries using List.reverseRecOn with
  | nil => simp [collect]
  | append_singleton entries last ih =>
    rw [collect_append_singleton]
    unfold putEntry
    split
    · rw [List.pairwise_map]
      refine ih.imp fun {a b} hne => ?_
      by_cases ha : key a = key last
      · have hb : key b ≠ key last := fun hb => hne (ha.trans hb.symm)
        rw [if_pos ha, if_neg hb]
        exact Ne.symm hb
      · rw [if_neg ha]
        by_cases hb : key b = key last
        · rw [if_pos hb]
          exact ha
        · rw [if_neg hb]
          exact hne
    · rename_i hany
      rw [List.pairwise_append]
      refine ⟨ih, List.pairwise_singleton _ _, ?_⟩
      intro a ha b hb hkey
      rw [List.mem_singleton.mp hb] at hkey
      exact hany (List.any_eq_true.mpr ⟨a, ha, decide_eq_true hkey⟩)

def series (key : α → κ) (entries : List α) : List α :=
  (collect key entries).insertionSort fun a b => key a ≤ key b

def newest (capacity : ℕ) (entries : List α) : List α :=
  entries.drop (entries.length - capacity)

theorem mem_series : entry ∈ series key entries ↔ latest key entries (key entry) = some entry := by
  unfold series
  rw [List.mem_insertionSort, mem_collect]

theorem pairwise_series (entries : List α) :
    (series key entries).Pairwise fun a b => key a < key b := by
  have hle : (series key entries).Pairwise fun a b => key a ≤ key b :=
    have : IsTrans α fun a b => key a ≤ key b := ⟨fun _ _ _ => le_trans⟩
    have : Std.Total fun a b : α => key a ≤ key b := ⟨fun a b => le_total (key a) (key b)⟩
    List.pairwise_insertionSort _ (collect key entries)
  have hne : (series key entries).Pairwise fun a b => key a ≠ key b := by
    have hperm := List.perm_insertionSort (fun a b => key a ≤ key b) (collect key entries)
    exact (hperm.pairwise_iff fun h => Ne.symm h).mpr (collect_keys_ne entries)
  exact (hle.and hne).imp fun h => lt_of_le_of_ne h.1 h.2

theorem newest_sublist (capacity : ℕ) (entries : List α) :
    (newest capacity entries).Sublist entries := List.drop_sublist _ _

theorem newest_of_le (h : entries.length ≤ capacity) : newest capacity entries = entries := by
  unfold newest
  rw [Nat.sub_eq_zero_of_le h, List.drop_zero]

theorem mem_newest_of_le (h : entries.Pairwise fun a b => key a < key b) {stayed : α}
    (hstayed : stayed ∈ newest capacity entries) (hmem : entry ∈ entries)
    (hle : key stayed ≤ key entry) : entry ∈ newest capacity entries := by
  unfold newest at hstayed ⊢
  rw [← List.take_append_drop (entries.length - capacity) entries] at h hmem
  rcases List.mem_append.mp hmem with hcut | hkept
  · have hlt := (List.pairwise_append.mp h).2.2 entry hcut stayed hstayed
    exact absurd hle (not_le_of_gt hlt)
  · exact hkept

end Library
