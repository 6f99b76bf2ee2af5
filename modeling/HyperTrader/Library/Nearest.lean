import HyperTrader.Library.Significant
import Mathlib.Tactic.Linarith

/-!
# The nearest number of limited precision

Rounded to the nearest multiple at the scale of its own magnitude, with ties upward, a
number becomes the nearest significant one (`isNearest_roundNearest`), or zero when zero
is nearer than every significant number.
-/

namespace Library

variable {R : Type*} [Field R] [LinearOrder R] [IsStrictOrderedRing R]

/-- `u` is nearest to `v` among the members of `s`, and the greater of two nearest. -/
def IsNearest (s : Set R) (v u : R) : Prop :=
  u ∈ s ∧ ∀ p ∈ s, |u - v| ≤ |p - v| ∧ (|u - v| = |p - v| → p ≤ u)

omit [IsStrictOrderedRing R] in
theorem IsNearest.unique {s : Set R} {v u w : R} (hu : IsNearest s v u)
    (hw : IsNearest s v w) : u = w := by
  have heq : |u - v| = |w - v| := le_antisymm (hu.2 w hw.1).1 (hw.2 u hu.1).1
  exact le_antisymm ((hw.2 u hu.1).2 heq.symm) ((hu.2 w hw.1).2 heq)

theorem isNearest_self {s : Set R} {v : R} (hv : v ∈ s) : IsNearest s v v := by
  refine ⟨hv, fun p _ => ?_⟩
  rw [sub_self, abs_zero]
  refine ⟨abs_nonneg _, fun h => ?_⟩
  rw [eq_comm, abs_eq_zero, sub_eq_zero] at h
  exact h.le

variable [FloorSemiring R]

/-- Rounded to the nearest multiple of `1 / b ^ scale`, ties upward. -/
def roundNearest (b scale : ℕ) (v : R) : R :=
  (⌊v * (b : R) ^ scale + 1 / 2⌋₊ : R) / (b : R) ^ scale

section Grid

variable {b : ℕ} (hb : 1 < b)

include hb

/-- The nearest multiple is the one below or the one above: the one above where it is
no farther. -/
theorem roundNearest_eq {scale : ℕ} {v : R} (hv : 0 ≤ v) :
    roundNearest b scale v =
      if roundUp b scale v - v ≤ v - roundDown b scale v then roundUp b scale v
      else roundDown b scale v := by
  have hpow : (0 : R) < (b : R) ^ scale := radix_pow_pos hb scale
  have hscaled : 0 ≤ v * (b : R) ^ scale := mul_nonneg hv hpow.le
  have hfloor := Nat.floor_le hscaled
  have hlt := Nat.lt_floor_add_one (v * (b : R) ^ scale)
  unfold roundNearest roundUp roundDown
  set x := v * (b : R) ^ scale with hx
  have hvx : v = x / (b : R) ^ scale := by
    rw [hx, mul_div_cancel_right₀ _ hpow.ne']
  have hcompare : ((⌈x⌉₊ : R) / (b : R) ^ scale - v ≤ v - (⌊x⌋₊ : R) / (b : R) ^ scale) ↔
      (⌈x⌉₊ : R) - x ≤ x - ⌊x⌋₊ := by
    rw [hvx, ← sub_div, ← sub_div, div_le_div_iff_of_pos_right hpow]
  simp only [hcompare]
  rcases hfloor.lt_or_eq with hbelow | hwhole
  · have hceil : ⌈x⌉₊ = ⌊x⌋₊ + 1 := by
      apply le_antisymm
      · exact Nat.ceil_le.mpr (by exact_mod_cast hlt.le)
      · exact Nat.lt_ceil.mpr hbelow
    rw [hceil]
    push_cast
    split_ifs with hnear
    · have hround : ⌊x + 1 / 2⌋₊ = ⌊x⌋₊ + 1 := by
        rw [Nat.floor_eq_iff (by positivity)]
        push_cast
        constructor <;> linarith
      rw [hround]
      push_cast
      rfl
    · have hround : ⌊x + 1 / 2⌋₊ = ⌊x⌋₊ := by
        rw [Nat.floor_eq_iff (by positivity)]
        constructor <;> linarith
      rw [hround]
  · have hceil : ⌈x⌉₊ = ⌊x⌋₊ := by
      rw [← hwhole, Nat.ceil_natCast, Nat.floor_natCast]
    have hround : ⌊x + 1 / 2⌋₊ = ⌊x⌋₊ := by
      rw [Nat.floor_eq_iff (by positivity)]
      constructor <;> linarith
    rw [hceil, hround, ite_self]

theorem abs_roundNearest_sub_le {scale : ℕ} {v : R} (hv : 0 ≤ v) :
    |roundNearest b scale v - v| ≤ 1 / 2 / (b : R) ^ scale := by
  have hpow : (0 : R) < (b : R) ^ scale := radix_pow_pos hb scale
  have hscaled : 0 ≤ v * (b : R) ^ scale := mul_nonneg hv hpow.le
  have hfloor := Nat.floor_le (by linarith : 0 ≤ v * (b : R) ^ scale + 1 / 2)
  have hlt := Nat.lt_floor_add_one (v * (b : R) ^ scale + 1 / 2)
  have hvalue : roundNearest b scale v - v =
      ((⌊v * (b : R) ^ scale + 1 / 2⌋₊ : R) - v * (b : R) ^ scale) / (b : R) ^ scale := by
    rw [roundNearest, sub_div, mul_div_cancel_right₀ _ hpow.ne']
  rw [hvalue, abs_div, abs_of_pos hpow, div_le_div_iff_of_pos_right hpow, abs_le]
  constructor <;> linarith

theorem roundNearest_le_abs (scale : ℕ) {v : R} (p : R) (hv : 0 ≤ v)
    (hbelow : p ≤ v → p ≤ roundDown b scale v) (habove : v ≤ p → roundUp b scale v ≤ p) :
    |roundNearest b scale v - v| ≤ |p - v| ∧
      (|roundNearest b scale v - v| = |p - v| → p ≤ roundNearest b scale v) := by
  have hdown : roundDown b scale v ≤ v := roundDown_le hb hv
  have hup : v ≤ roundUp b scale v := le_roundUp hb
  rw [roundNearest_eq hb hv]
  split_ifs with hnear
  · rw [abs_of_nonneg (by linarith : 0 ≤ roundUp b scale v - v)]
    rcases le_total p v with hpv | hvp
    · have hle := hbelow hpv
      rw [abs_of_nonpos (by linarith : p - v ≤ 0)]
      exact ⟨by linarith, fun _ => by linarith⟩
    · have hge := habove hvp
      rw [abs_of_nonneg (by linarith : 0 ≤ p - v)]
      exact ⟨by linarith, fun h => by linarith⟩
  · rw [abs_of_nonpos (by linarith : roundDown b scale v - v ≤ 0)]
    rcases le_total p v with hpv | hvp
    · have hle := hbelow hpv
      rw [abs_of_nonpos (by linarith : p - v ≤ 0)]
      exact ⟨by linarith, fun h => by linarith⟩
    · have hge := habove hvp
      rw [abs_of_nonneg (by linarith : 0 ≤ p - v)]
      exact ⟨by linarith, fun h => by linarith⟩

variable {figures places : ℕ} {v : R}

/-- **The nearest significant number** is the number rounded at the scale of its
magnitude, unless nothing of it is left. -/
theorem isNearest_roundNearest (hfigures : 0 < figures) (hv : 0 < v)
    (hpos : 0 < roundNearest b (gridScale figures places (magnitude b v)) v) :
    IsNearest {x | Significant b figures places x} v
      (roundNearest b (gridScale figures places (magnitude b v)) v) := by
  constructor
  · change Significant b figures places _
    rw [roundNearest_eq hb hv.le] at hpos ⊢
    split_ifs at hpos ⊢
    · exact significant_roundUp hb hfigures hv
    · exact significant_roundDown hb hv hpos
  · intro p hp
    exact roundNearest_le_abs hb _ p hv.le (fun h => hp.le_roundDown hb hfigures h)
      fun h => hp.roundUp_le hb hfigures hv h

theorem roundNearest_pos_iff (hfigures : 0 < figures) (hv : 0 < v) :
    0 < roundNearest b (gridScale figures places (magnitude b v)) v ↔
      ∃ p, Significant b figures places p ∧ |p - v| ≤ v := by
  constructor
  · intro hpos
    have hnearest := isNearest_roundNearest hb hfigures hv hpos
    refine ⟨_, hnearest.1, ?_⟩
    -- zero is a multiple of the unit
    have hzero := roundNearest_le_abs hb (gridScale figures places (magnitude b v)) 0 hv.le
      (fun _ => by rw [roundDown]; positivity) fun h => absurd h hv.not_ge
    rw [zero_sub, abs_neg, abs_of_pos hv] at hzero
    exact hzero.1
  · rintro ⟨p, hp, hle⟩
    by_contra hzero
    have hnonneg : 0 ≤ roundNearest b (gridScale figures places (magnitude b v)) v := by
      rw [roundNearest]
      positivity
    have heq : roundNearest b (gridScale figures places (magnitude b v)) v = 0 :=
      le_antisymm (not_lt.mp hzero) hnonneg
    have hnear := roundNearest_le_abs hb (gridScale figures places (magnitude b v)) p hv.le
      (fun h => hp.le_roundDown hb hfigures h)
      fun h => hp.roundUp_le hb hfigures hv h
    rw [heq, zero_sub, abs_neg, abs_of_pos hv] at hnear
    exact absurd (hnear.2 (le_antisymm hnear.1 hle)) hp.1.not_ge

theorem roundNearest_of_significant (hfigures : 0 < figures) (hv : Significant b figures places v) :
    roundNearest b (gridScale figures places (magnitude b v)) v = v := by
  have hpos := (roundNearest_pos_iff hb hfigures hv.1).mpr
    ⟨v, hv, by rw [sub_self, abs_zero]; exact hv.1.le⟩
  exact (isNearest_roundNearest hb hfigures hv.1 hpos).unique (isNearest_self hv)

end Grid

end Library
