import Mathlib.Algebra.Order.Floor.Semiring
import Mathlib.Algebra.Order.Field.Power
import Mathlib.Data.Int.Log
import Mathlib.Order.Bounds.Basic
import Mathlib.Tactic.FieldSimp
import Mathlib.Tactic.Positivity
import Mathlib.Tactic.Push
import Mathlib.Tactic.Ring

/-!
# Numbers of limited precision

A positive number is `Significant` when it is whole, or has at most `places`
digits after the point and at most `figures` digits at all. These numbers are no
uniform grid, but up to each power of the radix they are one: a number below
`b ^ k` is significant if and only if it is a multiple of `1 / b ^ s` for the
scale `s` of `k` (`significant_iff_onGrid`). The greatest significant number
below a bound, and the least one above it, are therefore the bound rounded at
the scale of its own magnitude (`isGreatest_iff`, `isLeast_iff`).
-/

namespace Library

variable {R : Type*} [Field R] [LinearOrder R] [IsStrictOrderedRing R] [FloorSemiring R]

/-- The places a number with `k` digits before the point may have. -/
def gridScale (figures places : ℕ) (k : ℤ) : ℕ :=
  (max 0 (min (places : ℤ) (figures - k))).toNat

/-- The digits before the point: `v` lies between `b ^ (k - 1)` and `b ^ k`. -/
def magnitude (b : ℕ) (v : R) : ℤ := Int.log b v + 1

/-- The multiples of `1 / b ^ scale`. -/
def OnGrid (b scale : ℕ) (v : R) : Prop := ∃ n : ℕ, v = n / (b : R) ^ scale

/-- A positive number that is whole, or has at most `places` digits after the
point and at most `figures` digits at all. -/
def Significant (b figures places : ℕ) (v : R) : Prop :=
  0 < v ∧ ∃ m e : ℕ, v = m / (b : R) ^ e ∧ e ≤ places ∧ (e = 0 ∨ m < b ^ figures)

/-- Rounded down to a multiple of `1 / b ^ scale`. -/
def roundDown (b scale : ℕ) (v : R) : R := (⌊v * (b : R) ^ scale⌋₊ : R) / (b : R) ^ scale

/-- Rounded up to a multiple of `1 / b ^ scale`. -/
def roundUp (b scale : ℕ) (v : R) : R := (⌈v * (b : R) ^ scale⌉₊ : R) / (b : R) ^ scale

theorem gridScale_antitone (figures places : ℕ) {k l : ℤ} (h : k ≤ l) :
    gridScale figures places l ≤ gridScale figures places k := by
  unfold gridScale
  omega

theorem gridScale_le (figures places : ℕ) (k : ℤ) : gridScale figures places k ≤ places := by
  unfold gridScale
  omega

theorem magnitude_mono {b : ℕ} {u v : R} (hu : 0 < u) (h : u ≤ v) : magnitude b u ≤ magnitude b v :=
  Int.add_le_add_right (Int.log_mono_right hu h) 1

section Grid

variable {b : ℕ} (hb : 1 < b)

include hb

theorem radix_pos : (0 : R) < b := by
  exact_mod_cast (by omega : 0 < b)

theorem one_le_radix : (1 : R) ≤ b := by
  exact_mod_cast (by omega : 1 ≤ b)

theorem radix_pow_pos (scale : ℕ) : (0 : R) < (b : R) ^ scale := pow_pos (radix_pos hb) scale

theorem lt_zpow_magnitude (v : R) : v < (b : R) ^ magnitude b v :=
  Int.lt_zpow_succ_log_self hb v

variable {v u : R} {scale figures places coarse fine : ℕ} {k : ℤ}

theorem zpow_magnitude_le (hv : 0 < v) : (b : R) ^ (magnitude b v - 1) ≤ v := by
  have hle := Int.zpow_log_le_self hb hv
  rwa [magnitude, add_sub_cancel_right]

theorem magnitude_le_iff (hv : 0 < v) (k : ℤ) : magnitude b v ≤ k ↔ v < (b : R) ^ k := by
  rw [Int.lt_zpow_iff_log_lt hb hv, magnitude, Int.add_one_le_iff]

theorem zpow_le_iff (hv : 0 < v) (k : ℤ) : (b : R) ^ k ≤ v ↔ k < magnitude b v := by
  rw [← not_lt, ← magnitude_le_iff hb hv, not_le]

theorem magnitude_zpow (k : ℤ) : magnitude b ((b : R) ^ k) = k + 1 := by
  rw [magnitude, Int.log_zpow hb]

theorem OnGrid.mono {finer : ℕ} (h : OnGrid b scale v) (hle : scale ≤ finer) :
    OnGrid b finer v := by
  obtain ⟨n, rfl⟩ := h
  refine ⟨n * b ^ (finer - scale), ?_⟩
  have hpos : (0 : R) < (b : R) ^ scale := radix_pow_pos hb scale
  have hpos' : (0 : R) < (b : R) ^ finer := radix_pow_pos hb finer
  rw [div_eq_div_iff hpos.ne' hpos'.ne']
  push_cast
  rw [mul_assoc, ← pow_add, Nat.sub_add_cancel hle]

theorem onGrid_zpow (hk : -(scale : ℤ) ≤ k) : OnGrid b scale ((b : R) ^ k) := by
  refine ⟨b ^ (k + scale).toNat, ?_⟩
  have hne : (b : R) ≠ 0 := (radix_pos hb).ne'
  rw [eq_div_iff (radix_pow_pos hb scale).ne', ← zpow_natCast, ← zpow_add₀ hne]
  push_cast
  rw [← zpow_natCast, Int.toNat_of_nonneg (by omega)]

theorem roundDown_le (hv : 0 ≤ v) : roundDown b scale v ≤ v := by
  have hpos : (0 : R) < (b : R) ^ scale := radix_pow_pos hb scale
  rw [roundDown, div_le_iff₀ hpos]
  exact Nat.floor_le (by positivity)

theorem le_roundUp : v ≤ roundUp b scale v := by
  rw [roundUp, le_div_iff₀ (radix_pow_pos hb scale)]
  exact Nat.le_ceil _

theorem OnGrid.le_roundDown (hu : OnGrid b scale u) (h : u ≤ v) : u ≤ roundDown b scale v := by
  obtain ⟨n, rfl⟩ := hu
  have hpos : (0 : R) < (b : R) ^ scale := radix_pow_pos hb scale
  rw [roundDown, div_le_div_iff_of_pos_right hpos, Nat.cast_le]
  exact Nat.le_floor ((div_le_iff₀ hpos).mp h)

theorem OnGrid.roundUp_le (hu : OnGrid b scale u) (h : v ≤ u) : roundUp b scale v ≤ u := by
  obtain ⟨n, rfl⟩ := hu
  have hpos : (0 : R) < (b : R) ^ scale := radix_pow_pos hb scale
  rw [roundUp, div_le_div_iff_of_pos_right hpos, Nat.cast_le]
  exact Nat.ceil_le.mpr ((le_div_iff₀ hpos).mp h)

theorem Significant.onGrid (h : Significant b figures places v) :
    OnGrid b (gridScale figures places (magnitude b v)) v := by
  obtain ⟨hv, m, e, hvalue, hplaces, hfigures⟩ := h
  have hgrid : OnGrid b e v := ⟨m, hvalue⟩
  rcases hfigures with rfl | hm
  · exact hgrid.mono hb (Nat.zero_le _)
  · apply hgrid.mono hb
    -- a number of the magnitude `k` with more than `figures - k` places has too
    -- many digits
    have hm' : (m : R) < (b : R) ^ (figures : ℤ) := by
      rw [zpow_natCast]
      exact_mod_cast hm
    have hlower := zpow_magnitude_le hb hv
    have hscaled : (b : R) ^ (magnitude b v - 1 + e) ≤ m := by
      rw [zpow_add₀ (radix_pos hb).ne', zpow_natCast, ← le_div_iff₀ (radix_pow_pos hb e)]
      rwa [← hvalue]
    have hlt := (zpow_lt_zpow_iff_right₀ (by exact_mod_cast hb)).mp (hscaled.trans_lt hm')
    unfold gridScale
    omega

theorem OnGrid.significant (hv : 0 < v)
    (h : OnGrid b (gridScale figures places (magnitude b v)) v) :
    Significant b figures places v := by
  obtain ⟨n, hn⟩ := h
  refine ⟨hv, n, _, hn, gridScale_le _ _ _, ?_⟩
  rcases Nat.eq_zero_or_pos (gridScale figures places (magnitude b v)) with hzero | hpos
  · exact .inl hzero
  · right
    have hscaled : (n : R) = v * (b : R) ^ gridScale figures places (magnitude b v) := by
      rw [eq_comm, ← eq_div_iff (radix_pow_pos hb _).ne']
      exact hn
    have hlt : (n : R) < (b : R) ^ (figures : ℤ) := by
      calc (n : R) = v * (b : R) ^ gridScale figures places (magnitude b v) := hscaled
        _ < (b : R) ^ magnitude b v * (b : R) ^ gridScale figures places (magnitude b v) :=
            mul_lt_mul_of_pos_right (lt_zpow_magnitude hb v) (radix_pow_pos hb _)
        _ = (b : R) ^ (magnitude b v + gridScale figures places (magnitude b v)) := by
            rw [zpow_add₀ (radix_pos hb).ne', zpow_natCast]
        _ ≤ (b : R) ^ (figures : ℤ) := by
            apply zpow_le_zpow_right₀ (one_le_radix hb)
            unfold gridScale at hpos ⊢
            omega
    rw [zpow_natCast] at hlt
    exact_mod_cast hlt

theorem significant_iff_onGrid (hv : 0 < v) :
    Significant b figures places v ↔
      OnGrid b (gridScale figures places (magnitude b v)) v :=
  ⟨fun h => h.onGrid hb, fun h => h.significant hb hv⟩

theorem significant_zpow (hfigures : 0 < figures)
    (hk : -(places : ℤ) ≤ k) : Significant b figures places ((b : R) ^ k) := by
  apply OnGrid.significant hb (zpow_pos (radix_pos hb) k)
  apply onGrid_zpow hb
  rw [magnitude_zpow hb]
  unfold gridScale
  omega

/-- A significant number below `v` is below `v` rounded down at the scale of
`v`. -/
theorem Significant.le_roundDown (hfigures : 0 < figures)
    (hu : Significant b figures places u) (h : u ≤ v) :
    u ≤ roundDown b (gridScale figures places (magnitude b v)) v := by
  have hv : 0 < v := hu.1.trans_le h
  rcases le_or_gt ((b : R) ^ (magnitude b v - 1)) u with hge | hlt
  · have hsame : magnitude b u = magnitude b v := by
      have hmono : magnitude b u ≤ magnitude b v := magnitude_mono hu.1 h
      have hlow := (zpow_le_iff hb hu.1 _).mp hge
      omega
    have hgrid := hu.onGrid hb
    rw [hsame] at hgrid
    exact hgrid.le_roundDown hb h
  · rcases le_or_gt (-(gridScale figures places (magnitude b v) : ℤ)) (magnitude b v - 1)
      with hunit | hbelow
    · exact hlt.le.trans ((onGrid_zpow hb hunit).le_roundDown hb (zpow_magnitude_le hb hv))
    · -- the unit is greater than `v`: every significant number is a multiple of it
      have hgrid : OnGrid b (gridScale figures places (magnitude b v)) u := by
        apply (hu.onGrid hb).mono hb
        have hall : gridScale figures places (magnitude b v) = places := by
          unfold gridScale at hbelow ⊢
          omega
        rw [hall]
        exact gridScale_le _ _ _
      exact hgrid.le_roundDown hb h

/-- Rounded down at its own scale, a number is significant unless nothing of it
is left. -/
theorem significant_roundDown (hv : 0 < v)
    (hpos : 0 < roundDown b (gridScale figures places (magnitude b v)) v) :
    Significant b figures places (roundDown b (gridScale figures places (magnitude b v)) v) := by
  refine OnGrid.significant hb hpos (OnGrid.mono hb ⟨_, rfl⟩ ?_)
  exact gridScale_antitone _ _ (magnitude_mono hpos (roundDown_le hb hv.le))

/-- **The greatest significant number up to a bound** is the bound rounded down
at the scale of its magnitude. -/
theorem isGreatest_iff (hfigures : 0 < figures) (hv : 0 < v) (hu : 0 < u) :
    IsGreatest {x | Significant b figures places x ∧ x ≤ v} u ↔
      u = roundDown b (gridScale figures places (magnitude b v)) v := by
  constructor
  · rintro ⟨⟨hmem, hle⟩, hupper⟩
    have hbelow := hmem.le_roundDown hb hfigures hle
    exact le_antisymm hbelow (hupper ⟨significant_roundDown hb hv (hu.trans_le hbelow),
      roundDown_le hb hv.le⟩)
  · rintro rfl
    exact ⟨⟨significant_roundDown hb hv hu, roundDown_le hb hv.le⟩,
      fun x hx => hx.1.le_roundDown hb hfigures hx.2⟩

/-- The power of the radix above `v` is at least the unit at which `v` is
rounded, or nothing but the unit lies above `v`. -/
theorem roundUp_le_zpow (hunit : -(gridScale figures places (magnitude b v) : ℤ) ≤ magnitude b v) :
    roundUp b (gridScale figures places (magnitude b v)) v ≤ (b : R) ^ magnitude b v :=
  (onGrid_zpow hb hunit).roundUp_le hb (lt_zpow_magnitude hb v).le

theorem Significant.roundUp_le (hfigures : 0 < figures)
    (hv : 0 < v) (hu : Significant b figures places u) (h : v ≤ u) :
    roundUp b (gridScale figures places (magnitude b v)) v ≤ u := by
  rcases lt_or_ge u ((b : R) ^ magnitude b v) with hlt | hge
  · have hsame : magnitude b u = magnitude b v := by
      have hmono : magnitude b v ≤ magnitude b u := magnitude_mono hv h
      have hhigh := (magnitude_le_iff hb hu.1 _).mpr hlt
      omega
    have hgrid := hu.onGrid hb
    rw [hsame] at hgrid
    exact hgrid.roundUp_le hb h
  · rcases le_or_gt (-(gridScale figures places (magnitude b v) : ℤ)) (magnitude b v)
      with hunit | hbelow
    · exact (roundUp_le_zpow hb hunit).trans hge
    · have hall : gridScale figures places (magnitude b v) = places := by
        unfold gridScale at hbelow ⊢
        omega
      have hgrid := (hu.onGrid hb).mono hb (gridScale_le figures places _)
      rw [hall]
      exact hgrid.roundUp_le hb h

theorem significant_roundUp (hfigures : 0 < figures) (hv : 0 < v) :
    Significant b figures places (roundUp b (gridScale figures places (magnitude b v)) v) := by
  have hpos : 0 < roundUp b (gridScale figures places (magnitude b v)) v :=
    hv.trans_le (le_roundUp hb)
  rcases le_or_gt (-(gridScale figures places (magnitude b v) : ℤ)) (magnitude b v)
    with hunit | hbelow
  · rcases (roundUp_le_zpow hb hunit).lt_or_eq with hlt | heq
    · refine OnGrid.significant hb hpos (OnGrid.mono hb ⟨_, rfl⟩ ?_)
      exact gridScale_antitone _ _ ((magnitude_le_iff hb hpos _).mpr hlt)
    · rw [heq]
      apply significant_zpow hb hfigures
      have hle := gridScale_le figures places (magnitude b v)
      omega
  · -- the unit itself
    have hall : gridScale figures places (magnitude b v) = places := by
      unfold gridScale at hbelow ⊢
      omega
    have hunit : roundUp b (gridScale figures places (magnitude b v)) v =
        (b : R) ^ (-(places : ℤ)) := by
      rw [hall] at hbelow ⊢
      apply le_antisymm
      · refine (onGrid_zpow hb le_rfl).roundUp_le hb ((lt_zpow_magnitude hb v).le.trans ?_)
        exact zpow_le_zpow_right₀ (one_le_radix hb) hbelow.le
      · rw [zpow_neg, zpow_natCast, roundUp, ← one_div,
          div_le_div_iff_of_pos_right (radix_pow_pos hb _)]
        have hceil : 0 < ⌈v * (b : R) ^ places⌉₊ :=
          Nat.ceil_pos.mpr (mul_pos hv (radix_pow_pos hb _))
        exact_mod_cast hceil
    rw [hunit]
    exact significant_zpow hb hfigures le_rfl

/-- **The least significant number from a bound on** is the bound rounded up at
the scale of its magnitude. -/
theorem isLeast_iff (hfigures : 0 < figures) (hv : 0 < v) :
    IsLeast {x | Significant b figures places x ∧ v ≤ x} u ↔
      u = roundUp b (gridScale figures places (magnitude b v)) v := by
  have hleast : IsLeast {x | Significant b figures places x ∧ v ≤ x}
      (roundUp b (gridScale figures places (magnitude b v)) v) :=
    ⟨⟨significant_roundUp hb hfigures hv, le_roundUp hb⟩,
      fun x hx => hx.1.roundUp_le hb hfigures hv hx.2⟩
  constructor
  · exact fun h => h.unique hleast
  · rintro rfl
    exact hleast

/-- Rounding down at a coarser scale gives the same if and only if the number
is less than one finer unit above a multiple of the coarser one. -/
theorem roundDown_eq_iff (hle : coarse ≤ fine) (hv : 0 ≤ v) :
    roundDown b coarse v = roundDown b fine v ↔
      ∃ n : ℕ, (n : R) / (b : R) ^ coarse ≤ v ∧
        v < (n : R) / (b : R) ^ coarse + 1 / (b : R) ^ fine := by
  have hfine : (0 : R) < (b : R) ^ fine := radix_pow_pos hb fine
  have hbelow : v < roundDown b fine v + 1 / (b : R) ^ fine := by
    rw [roundDown, ← add_div, lt_div_iff₀ hfine]
    exact Nat.lt_floor_add_one _
  constructor
  · intro heq
    refine ⟨⌊v * (b : R) ^ coarse⌋₊, roundDown_le hb hv, ?_⟩
    rw [← heq] at hbelow
    exact hbelow
  · rintro ⟨n, hlow, hhigh⟩
    have hgrid : OnGrid b coarse ((n : R) / (b : R) ^ coarse) := ⟨n, rfl⟩
    have hcoarse : roundDown b coarse v ≤ roundDown b fine v :=
      (OnGrid.mono hb ⟨_, rfl⟩ hle).le_roundDown hb (roundDown_le hb hv)
    refine le_antisymm hcoarse (le_trans ?_ (hgrid.le_roundDown hb hlow))
    -- both are multiples of the finer unit, less than one unit apart
    obtain ⟨m, hm⟩ := hgrid.mono hb hle
    rw [hm, roundDown, div_le_div_iff_of_pos_right hfine, Nat.cast_le]
    have hlt : (⌊v * (b : R) ^ fine⌋₊ : R) < m + 1 := by
      have hv' : v * (b : R) ^ fine < m + 1 := by
        rw [← lt_div_iff₀ hfine, add_div, ← hm]
        exact hhigh
      exact (Nat.floor_le (by positivity)).trans_lt hv'
    exact Nat.lt_succ_iff.mp (by exact_mod_cast hlt)

/-- Rounded down at a scale, a number is a multiple of a coarser unit if and only
if rounding at that unit gives the same. -/
theorem onGrid_roundDown_iff (hle : coarse ≤ fine) (hv : 0 ≤ v) :
    OnGrid b coarse (roundDown b fine v) ↔ roundDown b coarse v = roundDown b fine v := by
  constructor
  · intro h
    apply le_antisymm
    · exact (OnGrid.mono hb ⟨_, rfl⟩ hle).le_roundDown hb (roundDown_le hb hv)
    · exact h.le_roundDown hb (roundDown_le hb hv)
  · intro h
    rw [← h]
    exact ⟨_, rfl⟩

/-- Rounding up at a coarser scale gives the same if and only if the number is
less than one finer unit below a multiple of the coarser one. -/
theorem roundUp_eq_iff (hle : coarse ≤ fine) (hv : 0 < v) :
    roundUp b coarse v = roundUp b fine v ↔
      ∃ n : ℕ, v ≤ (n : R) / (b : R) ^ coarse ∧
        (n : R) / (b : R) ^ coarse < v + 1 / (b : R) ^ fine := by
  have hfine : (0 : R) < (b : R) ^ fine := radix_pow_pos hb fine
  have habove : roundUp b fine v < v + 1 / (b : R) ^ fine := by
    rw [roundUp, div_lt_iff₀ hfine, add_mul, one_div, inv_mul_cancel₀ hfine.ne']
    exact Nat.ceil_lt_add_one (by positivity)
  constructor
  · intro heq
    refine ⟨⌈v * (b : R) ^ coarse⌉₊, le_roundUp hb, ?_⟩
    rw [← heq] at habove
    exact habove
  · rintro ⟨n, hlow, hhigh⟩
    have hgrid : OnGrid b coarse ((n : R) / (b : R) ^ coarse) := ⟨n, rfl⟩
    have hcoarse : roundUp b fine v ≤ roundUp b coarse v :=
      (OnGrid.mono hb ⟨_, rfl⟩ hle).roundUp_le hb (le_roundUp hb)
    refine le_antisymm ((hgrid.roundUp_le hb hlow).trans ?_) hcoarse
    obtain ⟨m, hm⟩ := hgrid.mono hb hle
    rw [hm, roundUp, div_le_div_iff_of_pos_right hfine, Nat.cast_le]
    have hlt : (m : R) < ⌈v * (b : R) ^ fine⌉₊ + 1 := by
      have hv' : (m : R) < v * (b : R) ^ fine + 1 := by
        rw [hm, div_lt_iff₀ hfine, add_mul, one_div, inv_mul_cancel₀ hfine.ne'] at hhigh
        exact hhigh
      exact hv'.trans_le (by gcongr; exact Nat.le_ceil _)
    exact Nat.lt_succ_iff.mp (by exact_mod_cast hlt)

end Grid

end Library
