import HyperTrader.Library.Table

/-!
# Tables with a primary key

A table with a primary key is a list of rows that carries the proof that no two share a
key, so `find?` by a key determines a row. Insertion fails on a key that is taken; updates
keep the keys. What every statement does to a table is told by its lookup lemma: an update
maps the row it finds, a deletion filters it, an insertion adds the one new row.
-/

namespace Library

variable {α κ : Type*}

structure Keyed (key : α → κ) where
  rows : List α
  unique : Table.UniqueKeys key rows

namespace Keyed

variable {key : α → κ}

instance [DecidableEq α] : DecidableEq (Keyed key) := fun t u =>
  decidable_of_iff (t.rows = u.rows) ⟨fun h => by cases t; cases u; cases h; rfl,
    fun h => h ▸ rfl⟩

def empty : Keyed key := ⟨[], List.Pairwise.nil⟩

def find? [DecidableEq κ] (table : Keyed key) (k : κ) : Option α :=
  table.rows.find? fun row => key row = k

/-- `INSERT`, which fails on a key that is taken. -/
def insert? [DecidableEq κ] (table : Keyed key) (row : α) : Option (Keyed key) :=
  if h : ∀ other ∈ table.rows, key other ≠ key row then
    some ⟨table.rows ++ [row], table.unique.insert h⟩
  else none

/-- `UPDATE … SET set WHERE wher` -/
def update (table : Keyed key) (wher : α → Bool) (set : α → α)
    (hset : ∀ row, key (set row) = key row) : Keyed key :=
  ⟨Table.update table.rows wher set, table.unique.update wher hset⟩

/-- `DELETE … WHERE wher` -/
def delete (table : Keyed key) (wher : α → Bool) : Keyed key :=
  ⟨table.rows.filter fun row => !wher row, table.unique.delete _⟩

variable {table table' : Keyed key} {k : κ} {row : α} {wher : α → Bool} {set : α → α}
  {hset : ∀ row, key (set row) = key row}

@[simp] theorem rows_empty : (empty : Keyed key).rows = [] := rfl

theorem mem_update : row ∈ (table.update wher set hset).rows ↔
    ∃ old ∈ table.rows, (wher old = true ∧ set old = row) ∨
      (wher old = false ∧ old = row) :=
  Table.mem_update

theorem mem_delete : row ∈ (table.delete wher).rows ↔ row ∈ table.rows ∧ wher row = false := by
  simp [delete]

variable [DecidableEq κ]

theorem find?_eq_some : table.find? k = some row ↔ row ∈ table.rows ∧ key row = k := by
  constructor
  · intro h
    have hkey := List.find?_some h
    exact ⟨List.mem_of_find?_eq_some h, by simpa using hkey⟩
  · rintro ⟨hmem, rfl⟩
    cases hfound : table.find? (key row) with
    | none =>
      have hnone := List.find?_eq_none.mp hfound row hmem
      simp at hnone
    | some other =>
      have hkey := List.find?_some hfound
      have hother := List.mem_of_find?_eq_some hfound
      rw [table.unique.eq_of_mem hother hmem (by simpa using hkey)]

theorem find?_of_mem (h : row ∈ table.rows) : table.find? (key row) = some row :=
  find?_eq_some.mpr ⟨h, rfl⟩

theorem find?_eq_none : table.find? k = none ↔ ∀ row ∈ table.rows, key row ≠ k := by
  simp [find?]

theorem key_of_find? (h : table.find? k = some row) : key row = k :=
  (find?_eq_some.mp h).2

@[simp] theorem find?_empty : (empty : Keyed key).find? k = none := rfl

theorem find?_eq_of_iff {o : Option α} (h : ∀ row, table.find? k = some row ↔ o = some row) :
    table.find? k = o := by
  cases hfound : table.find? k with
  | none =>
    cases o with
    | none => rfl
    | some row =>
      have hsome := (h row).mpr rfl
      rw [hfound] at hsome
      cases hsome
  | some row => exact ((h row).mp hfound).symm

theorem find?_update : (table.update wher set hset).find? k =
    (table.find? k).map fun row => if wher row then set row else row := by
  apply find?_eq_of_iff
  intro row
  rw [find?_eq_some, mem_update, Option.map_eq_some_iff]
  constructor
  · rintro ⟨⟨old, hold, ⟨hwher, rfl⟩ | ⟨hwher, rfl⟩⟩, hkey⟩
    · exact ⟨old, find?_eq_some.mpr ⟨hold, (hset old).symm.trans hkey⟩, by rw [if_pos hwher]⟩
    · exact ⟨old, find?_eq_some.mpr ⟨hold, hkey⟩, by simp [hwher]⟩
  · rintro ⟨old, hold, rfl⟩
    obtain ⟨hmem, hkey⟩ := find?_eq_some.mp hold
    by_cases hwher : wher old = true
    · rw [if_pos hwher]
      exact ⟨⟨old, hmem, .inl ⟨hwher, rfl⟩⟩, (hset old).trans hkey⟩
    · rw [if_neg hwher]
      exact ⟨⟨old, hmem, .inr ⟨by simpa using hwher, rfl⟩⟩, hkey⟩

theorem find?_delete : (table.delete wher).find? k =
    (table.find? k).filter fun row => !wher row := by
  apply find?_eq_of_iff
  intro row
  rw [find?_eq_some, mem_delete, Option.filter_eq_some_iff, find?_eq_some]
  simp only [Bool.not_eq_true']
  exact and_right_comm

theorem insert?_eq_some : table.insert? row = some table' ↔
    (∀ other ∈ table.rows, key other ≠ key row) ∧ table'.rows = table.rows ++ [row] := by
  unfold insert?
  split
  · rename_i h
    rw [Option.some.injEq]
    constructor
    · rintro rfl
      exact ⟨h, rfl⟩
    · rintro ⟨-, hrows⟩
      cases table'
      cases hrows
      rfl
  · rename_i h
    constructor
    · intro hsome
      cases hsome
    · intro hsome
      exact absurd hsome.1 h

theorem find?_insert (h : table.insert? row = some table') :
    table'.find? k = if key row = k then some row else table.find? k := by
  obtain ⟨hnew, hrows⟩ := insert?_eq_some.mp h
  apply find?_eq_of_iff
  intro other
  rw [find?_eq_some, hrows, List.mem_append, List.mem_singleton]
  by_cases hkey : key row = k
  · rw [if_pos hkey, Option.some.injEq]
    constructor
    · rintro ⟨hold | rfl, hother⟩
      · exact absurd (hother.trans hkey.symm) (hnew other hold)
      · rfl
    · rintro rfl
      exact ⟨.inr rfl, hkey⟩
  · rw [if_neg hkey, find?_eq_some]
    constructor
    · rintro ⟨hold | rfl, hother⟩
      · exact ⟨hold, hother⟩
      · exact absurd hother hkey
    · rintro ⟨hold, hother⟩
      exact ⟨.inl hold, hother⟩

def put (table : Keyed key) (row : α) : Keyed key :=
  if h : ∀ other ∈ table.rows, key other ≠ key row then
    ⟨table.rows ++ [row], table.unique.insert h⟩
  else
    table.update (fun other => key other = key row)
      (fun other => if key other = key row then row else other)
      fun other => by split <;> simp [*]

theorem find?_put : (table.put row).find? k = if key row = k then some row else table.find? k := by
  unfold put
  split
  · rename_i h
    have hinsert : table.insert? row = some ⟨table.rows ++ [row], table.unique.insert h⟩ :=
      dif_pos h
    exact find?_insert hinsert
  · rename_i h
    rw [find?_update]
    simp only [not_forall, not_not] at h
    obtain ⟨other, hother, hkey⟩ := h
    by_cases hsame : key row = k
    · rw [if_pos hsame, ← hsame, ← hkey, find?_of_mem hother]
      simp [hkey]
    · rw [if_neg hsame]
      cases hfound : table.find? k with
      | none => rfl
      | some found =>
        have hne : key found ≠ key row := by
          rw [key_of_find? hfound]
          exact Ne.symm hsame
        simp [hne]

theorem find?_update_key {k' : κ} :
    (table.update (fun row => key row == k) set hset).find? k' =
      if k' = k then (table.find? k').map set else table.find? k' := by
  rw [find?_update]
  cases hfound : table.find? k' with
  | none => simp
  | some row =>
    obtain rfl := key_of_find? hfound
    by_cases hsame : key row = k
    · simp [hsame]
    · simp [hsame]

theorem find?_delete_key {k' : κ} :
    (table.delete fun row => key row == k).find? k' = if k' = k then none else table.find? k' := by
  rw [find?_delete]
  cases hfound : table.find? k' with
  | none => simp
  | some row =>
    obtain rfl := key_of_find? hfound
    by_cases hsame : key row = k
    · simp [hsame]
    · simp [hsame]

theorem mem_iff_find? : row ∈ table.rows ↔ table.find? (key row) = some row :=
  ⟨find?_of_mem, fun h => (find?_eq_some.mp h).1⟩

end Keyed

end Library
