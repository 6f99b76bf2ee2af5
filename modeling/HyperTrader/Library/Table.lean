import Mathlib.Data.List.Basic
import Mathlib.Data.List.Pairwise

/-!
# Keyed tables as lists of rows

`update rows wher set` is an `UPDATE` statement: it rewrites the rows that
`wher` selects and keeps every other row and the order; `changes` counts the
rows it selects. In a table whose keys are unique, a statement that selects by
key changes nothing or rewrites one row, which `Rewrites` describes. `Follows`
is what any statement that deletes nothing does to a table, and it composes
along a run of statements.
-/

namespace Library

namespace Table

variable {α κ : Type*}

/-- `UPDATE … SET set WHERE wher`. -/
def update (rows : List α) (wher : α → Bool) (set : α → α) : List α :=
  rows.map fun row => if wher row then set row else row

def changes (rows : List α) (wher : α → Bool) : ℕ :=
  rows.countP wher

variable {rows : List α} {wher : α → Bool} {set : α → α} {row : α}

theorem mem_update :
    row ∈ update rows wher set ↔
      ∃ old ∈ rows, (wher old = true ∧ set old = row) ∨
        (wher old = false ∧ old = row) := by
  simp only [update, List.mem_map]
  constructor
  · rintro ⟨old, hold, h⟩
    refine ⟨old, hold, ?_⟩
    by_cases hw : wher old = true
    · exact .inl ⟨hw, by simpa [hw] using h⟩
    · exact .inr ⟨by simpa using hw, by simpa [hw] using h⟩
  · rintro ⟨old, hold, ⟨hw, rfl⟩ | ⟨hw, rfl⟩⟩
    · exact ⟨old, hold, by simp [hw]⟩
    · exact ⟨old, hold, by simp [hw]⟩

theorem update_of_changes_eq_zero (h : changes rows wher = 0) : update rows wher set = rows := by
  have hnone : ∀ row ∈ rows, ¬ wher row = true := by
    simpa [changes, List.countP_eq_zero] using h
  unfold update
  conv_rhs => rw [← List.map_id rows]
  apply List.map_congr_left
  intro row hrow
  simp [hnone row hrow]

def UniqueKeys (key : α → κ) (rows : List α) : Prop :=
  rows.Pairwise fun a b => key a ≠ key b

/-- A key is the key of one row only. -/
theorem UniqueKeys.eq_of_mem {key : α → κ}
    (h : UniqueKeys key rows) {a b : α} (ha : a ∈ rows) (hb : b ∈ rows)
    (hkey : key a = key b) : a = b := by
  by_contra hne
  have hsymm : Std.Symm fun a b => key a ≠ key b := ⟨fun _ _ hab => hab.symm⟩
  exact h.forall ha hb hne hkey

theorem UniqueKeys.update {key : α → κ} (h : UniqueKeys key rows)
    (wher : α → Bool) (hset : ∀ row, key (set row) = key row) :
    UniqueKeys key (Table.update rows wher set) := by
  have hkey : ∀ row, key (if wher row then set row else row) = key row := by
    intro row
    split
    · exact hset row
    · rfl
  unfold UniqueKeys Table.update at *
  rw [List.pairwise_map]
  simpa only [hkey] using h

theorem UniqueKeys.insert {key : α → κ} (h : UniqueKeys key rows)
    (hnew : ∀ other ∈ rows, key other ≠ key row) : UniqueKeys key (rows ++ [row]) := by
  apply List.pairwise_append.mpr
  exact ⟨h, List.pairwise_singleton _ _, by simpa using hnew⟩

theorem UniqueKeys.delete {key : α → κ} (h : UniqueKeys key rows)
    (wher : α → Bool) : UniqueKeys key (rows.filter wher) :=
  List.Pairwise.filter wher h

theorem changes_le_one {key : α → κ} (h : UniqueKeys key rows)
    {k : κ} (hwher : ∀ row ∈ rows, wher row = true → key row = k) : changes rows wher ≤ 1 := by
  induction rows with
  | nil => simp [changes]
  | cons row rows ih =>
    obtain ⟨hhead, htail⟩ := List.pairwise_cons.mp h
    have hrest := ih htail fun r hr => hwher r (List.mem_cons_of_mem _ hr)
    by_cases hw : wher row = true
    · have hk := hwher row List.mem_cons_self hw
      have hnone : changes rows wher = 0 := by
        refine List.countP_eq_zero.mpr fun other hother hsel => ?_
        have hother' := hwher other (List.mem_cons_of_mem _ hother) hsel
        exact hhead other hother (hk.trans hother'.symm)
      simp only [changes, List.countP_cons, hw, if_true] at hnone ⊢
      omega
    · simpa [changes, List.countP_cons, hw] using hrest

/-- The statement rewrote `row` to `row'` and left every row of another key. -/
structure Rewrites (key : α → κ) (before after : List α) (row row' : α) :
    Prop where
  mem : row ∈ before
  mem_after : row' ∈ after
  key_eq : key row' = key row
  others : ∀ other, key other ≠ key row → (other ∈ after ↔ other ∈ before)

/-- An update of one key changes no row or one. -/
theorem update_cases {key : α → κ} {rows : List α} (h : UniqueKeys key rows)
    {wher : α → Bool} {set : α → α} {k : κ} (hwher : ∀ row ∈ rows, wher row = true → key row = k)
    (hset : ∀ row, key (set row) = key row) :
    (changes rows wher = 0 ∧ update rows wher set = rows) ∨
      (changes rows wher = 1 ∧ ∃ row, wher row = true ∧
        Rewrites key rows (update rows wher set) row (set row)) := by
  rcases Nat.eq_zero_or_pos (changes rows wher) with hzero | hpos
  · exact .inl ⟨hzero, update_of_changes_eq_zero hzero⟩
  · right
    have hone := changes_le_one h hwher
    obtain ⟨row, hrow, hw⟩ := List.countP_pos_iff.mp hpos
    refine ⟨by omega, row, hw, hrow, ?_, hset row, ?_⟩
    · exact mem_update.mpr ⟨row, hrow, .inl ⟨hw, rfl⟩⟩
    · intro other hother
      constructor
      · intro hmem
        obtain ⟨old, hold, ⟨hsel, rfl⟩ | ⟨-, rfl⟩⟩ := mem_update.mp hmem
        · refine absurd ?_ hother
          rw [hset, hwher old hold hsel, hwher row hrow hw]
        · exact hold
      · intro hmem
        refine mem_update.mpr ⟨other, hmem, .inr ⟨?_, rfl⟩⟩
        by_contra hsel
        have hsel' : wher other = true := by simpa using hsel
        exact hother ((hwher other hmem hsel').trans (hwher row hrow hw).symm)

/-- Every earlier row lives on along `r`, and every later row comes from an
earlier one along `r` or is `fresh`. -/
structure Follows (key : α → κ) (r : α → α → Prop) (fresh : α → Prop)
    (before after : List α) : Prop where
  forward : ∀ row ∈ before, ∃ row' ∈ after, key row' = key row ∧ r row row'
  backward : ∀ row' ∈ after,
    (∃ row ∈ before, key row' = key row ∧ r row row') ∨ fresh row'

section

variable {key : α → κ} {r : α → α → Prop} {fresh : α → Prop}

theorem Follows.refl (hr : ∀ row, r row row) (rows : List α) :
    Follows key r fresh rows rows where
  forward row hrow := ⟨row, hrow, rfl, hr row⟩
  backward row hrow := .inl ⟨row, hrow, rfl, hr row⟩

theorem Follows.trans (htrans : ∀ a b c, r a b → r b c → r a c)
    (hfresh : ∀ a b, fresh a → r a b → fresh b) {first second third : List α}
    (h : Follows key r fresh first second) (h' : Follows key r fresh second third) :
    Follows key r fresh first third where
  forward row hrow := by
    obtain ⟨mid, hmid, hkey, hstep⟩ := h.forward row hrow
    obtain ⟨last, hlast, hkey', hstep'⟩ := h'.forward mid hmid
    exact ⟨last, hlast, hkey'.trans hkey, htrans _ _ _ hstep hstep'⟩
  backward row hrow := by
    rcases h'.backward row hrow with ⟨mid, hmid, hkey', hstep'⟩ | hnew
    · rcases h.backward mid hmid with ⟨old, hold, hkey, hstep⟩ | hnew
      · exact .inl ⟨old, hold, hkey'.trans hkey, htrans _ _ _ hstep hstep'⟩
      · exact .inr (hfresh _ _ hnew hstep')
    · exact .inr hnew

variable {before after : List α} {row : α}

theorem Follows.mono {r' : α → α → Prop} {fresh' : α → Prop} (h : Follows key r fresh before after)
    (hr : ∀ row ∈ before, ∀ row', r row row' → r' row row')
    (hfresh : ∀ row ∈ after, fresh row → fresh' row) :
    Follows key r' fresh' before after where
  forward row hrow := by
    obtain ⟨row', hrow', hkey, hstep⟩ := h.forward row hrow
    exact ⟨row', hrow', hkey, hr row hrow row' hstep⟩
  backward row hrow := by
    rcases h.backward row hrow with ⟨old, hold, hkey, hstep⟩ | hnew
    · exact .inl ⟨old, hold, hkey, hr old hold row hstep⟩
    · exact .inr (hfresh row hrow hnew)

theorem Rewrites.follows {row' : α} (hr : ∀ row, r row row) (hbefore : UniqueKeys key before)
    (hafter : UniqueKeys key after) (h : Rewrites key before after row row')
    (hstep : r row row') : Follows key r fresh before after where
  forward old hold := by
    by_cases hkey : key old = key row
    · obtain rfl := hbefore.eq_of_mem hold h.mem hkey
      exact ⟨row', h.mem_after, h.key_eq, hstep⟩
    · exact ⟨old, (h.others old hkey).mpr hold, rfl, hr old⟩
  backward new hnew := by
    by_cases hkey : key new = key row
    · obtain rfl := hafter.eq_of_mem hnew h.mem_after (hkey.trans h.key_eq.symm)
      exact .inl ⟨row, h.mem, h.key_eq, hstep⟩
    · exact .inl ⟨new, (h.others new hkey).mp hnew, rfl, hr new⟩

theorem follows_append (hr : ∀ row, r row row) (rows : List α)
    (hrow : fresh row) : Follows key r fresh rows (rows ++ [row]) where
  forward old hold := ⟨old, List.mem_append_left _ hold, rfl, hr old⟩
  backward new hnew := by
    rcases List.mem_append.mp hnew with hold | hlast
    · exact .inl ⟨new, hold, rfl, hr new⟩
    · rw [List.mem_singleton.mp hlast]
      exact .inr hrow

theorem Follows.all {p : α → Prop}
    (h : Follows key r fresh before after) (hfresh : ∀ row, fresh row → p row)
    (hr : ∀ row row', p row → r row row' → p row')
    (hp : ∀ row ∈ before, p row) : ∀ row ∈ after, p row := by
  intro row hrow
  rcases h.backward row hrow with ⟨old, hold, -, hstep⟩ | hnew
  · exact hr old row (hp old hold) hstep
  · exact hfresh row hnew

end

end Table

end Library
