import HyperTrader.Actions.Intent
import HyperTrader.Library.Decimal
import Mathlib.Data.Nat.Cast.Order.Field

/-!
# The price bound of a market order

A market order is an immediate-or-cancel limit order at a price derived from the
reference price. The price is rounded to what the market accepts, towards the
reference, so it stays inside the user's maximum slippage.
-/

namespace HyperTrader

open Library

structure PricePrecisionInputs where
  maxSignificantFigures : ℤ
  maxDecimalPlaces : ℤ
  deriving DecidableEq

def targetScale (reference : DecimalText) (precision : PricePrecisionInputs) : ℕ :=
  let wholeDigits : ℤ := max 1
    ((numberDigits reference.coefficient).length - reference.fraction.length)
  (max 0 (min precision.maxDecimalPlaces (precision.maxSignificantFigures - wholeDigits))).toNat

def slippageFactor (side : OrderSide) (slippageBps : ℤ) : ℤ :=
  match side with
  | .buy => 10000 + slippageBps
  | .sell => 10000 - slippageBps

/-- `numerator / denominator`, rounded down for a purchase and up for a sale. -/
def roundedQuotient (side : OrderSide) (numerator denominator : ℕ) : ℕ :=
  match side with
  | .buy => numerator / denominator
  | .sell =>
    numerator / denominator + if numerator % denominator = 0 then 0 else 1

def aggressiveOrderPrice (referencePrice : String) (side : OrderSide)
    (slippageBps : ℤ) (precision : PricePrecisionInputs) : Outcome String := do
  require (isSafeInteger slippageBps ∧ 0 ≤ slippageBps ∧ slippageBps ≤ 500)
    (.error "Slippage must be whole basis points from 0 through 500.")
  let reference ← (readDecimal referencePrice).elim
    (.error (.error "Reference price must be a positive decimal value.")) .ok
  require (reference.negative = false)
    (.error "Reference price must be a positive decimal value.")
  require (0 < reference.coefficient)
    (.error "Reference price must be greater than zero.")
  let scale := targetScale reference precision
  let coefficient := roundedQuotient side
    (reference.coefficient * (slippageFactor side slippageBps).toNat * 10 ^ scale)
    (10 ^ reference.fraction.length * 10000)
  require (0 < coefficient) (.error "The slippage price bound is not positive.")
  pure (formatScaled coefficient scale)

/-- The price is positive and no worse for the user than the reference moved by
the slippage: a purchase pays at most that, a sale yields at least that. -/
def WithinSlippage (price referencePrice : String) (side : OrderSide) (slippageBps : ℤ) : Prop :=
  ∃ value reference, decimalValue price = some value ∧
    decimalValue referencePrice = some reference ∧ 0 < value ∧ 0 < reference ∧
    match side with
    | .buy => value ≤ reference * (10000 + slippageBps) / 10000
    | .sell => reference * (10000 - slippageBps) / 10000 ≤ value

theorem roundedQuotient_buy_le (numerator denominator : ℕ) :
    (roundedQuotient .buy numerator denominator : ℚ) ≤ numerator / denominator :=
  Nat.cast_div_le

theorem le_roundedQuotient_sell (numerator : ℕ) {denominator : ℕ} (hdenominator : 0 < denominator) :
    (numerator / denominator : ℚ) ≤ roundedQuotient .sell numerator denominator := by
  have hpos : (0 : ℚ) < denominator := by exact_mod_cast hdenominator
  rw [div_le_iff₀ hpos]
  have hsplit := Nat.div_add_mod numerator denominator
  have hlt := Nat.mod_lt numerator hdenominator
  have hle : numerator ≤
      roundedQuotient .sell numerator denominator * denominator := by
    simp only [roundedQuotient]
    split
    · rw [add_zero, mul_comm]
      omega
    · rw [add_mul, one_mul, mul_comm]
      omega
  exact_mod_cast hle

theorem DecimalText.value_of_not_negative {text : DecimalText} (h : text.negative = false) :
    text.value = text.coefficient / 10 ^ text.fraction.length := by
  simp [DecimalText.value, h]

/-- **The derived price stays inside the slippage.** -/
theorem aggressiveOrderPrice_within {referencePrice price : String}
    {side : OrderSide} {slippageBps : ℤ} {precision : PricePrecisionInputs}
    (h : aggressiveOrderPrice referencePrice side slippageBps precision = .ok price) :
    WithinSlippage price referencePrice side slippageBps := by
  unfold aggressiveOrderPrice at h
  simp only [except_bind_eq_ok, require_eq_ok, pure, Except.pure, Except.ok.injEq] at h
  obtain ⟨_, ⟨-, hleast, hmost⟩, reference, hread, _, hsign, _, hpositive, _,
    hcoefficient, rfl⟩ := h
  have hread : readDecimal referencePrice = some reference := by
    cases hr : readDecimal referencePrice with
    | none => simp [hr] at hread
    | some found =>
      rw [hr] at hread
      cases hread
      rfl
  have hvalue : decimalValue referencePrice =
      some (reference.coefficient / 10 ^ reference.fraction.length : ℚ) := by
    rw [decimalValue, hread, Option.map_some, DecimalText.value_of_not_negative hsign]
  refine ⟨_, _, formatScaled_value _ _, hvalue, ?_, ?_, ?_⟩
  · have hcast : (0 : ℚ) < (roundedQuotient side
        (reference.coefficient * (slippageFactor side slippageBps).toNat *
          10 ^ targetScale reference precision) (10 ^ reference.fraction.length * 10000) : ℕ) := by
      exact_mod_cast hcoefficient
    positivity
  · have hcast : (0 : ℚ) < reference.coefficient := by exact_mod_cast hpositive
    positivity
  · cases side with
    | buy =>
      have hfactor : (((slippageFactor .buy slippageBps).toNat : ℕ) : ℚ) =
          10000 + slippageBps := by
        have hint : ((slippageFactor .buy slippageBps).toNat : ℤ) =
            10000 + slippageBps := by
          simp only [slippageFactor]
          omega
        exact_mod_cast congrArg (Int.cast (R := ℚ)) hint
      have hquotient := roundedQuotient_buy_le
        (reference.coefficient * (slippageFactor .buy slippageBps).toNat *
          10 ^ targetScale reference precision)
        (10 ^ reference.fraction.length * 10000)
      dsimp only
      rw [div_le_iff₀ (by positivity)]
      refine hquotient.trans (le_of_eq ?_)
      push_cast
      rw [hfactor]
      field_simp
    | sell =>
      have hfactor : (((slippageFactor .sell slippageBps).toNat : ℕ) : ℚ) =
          10000 - slippageBps := by
        have hint : ((slippageFactor .sell slippageBps).toNat : ℤ) =
            10000 - slippageBps := by
          simp only [slippageFactor]
          omega
        exact_mod_cast congrArg (Int.cast (R := ℚ)) hint
      have hdenominator : 0 < 10 ^ reference.fraction.length * 10000 := by
        positivity
      have hquotient := le_roundedQuotient_sell
        (reference.coefficient * (slippageFactor .sell slippageBps).toNat *
          10 ^ targetScale reference precision) hdenominator
      dsimp only
      rw [le_div_iff₀ (by positivity)]
      refine (le_of_eq ?_).trans hquotient
      push_cast
      rw [hfactor]
      field_simp

end HyperTrader
