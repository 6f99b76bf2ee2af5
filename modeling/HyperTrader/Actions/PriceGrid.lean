import HyperTrader.Actions.AggressivePrice
import HyperTrader.Actions.Validation
import HyperTrader.Library.LowestTerms
import Mathlib.Algebra.Order.Floor.Semifield
import Mathlib.Data.Rat.Floor

/-!
# The prices a market accepts

A price is accepted when it is whole, or has no more decimals and significant
figures than the market admits: it is one of the market's `ValidPrice`s. The
validator's normalization and its slippage check are stated in exact values
here, and so is the price derived for a market order: the slippage bound, rounded
at a scale that is taken from the magnitude of the reference.
-/

namespace HyperTrader

open Library

def ParsedDecimal.value (decimal : ParsedDecimal) : ℚ :=
  decimal.coefficient / 10 ^ decimal.scale

theorem dropTrailingZeros_value (coefficient : ℤ) (scale : ℕ) :
    (dropTrailingZeros coefficient scale).value = coefficient / 10 ^ scale := by
  induction scale generalizing coefficient with
  | zero => rfl
  | succ scale ih =>
    unfold dropTrailingZeros
    split
    · rename_i hzero
      obtain ⟨q, rfl⟩ := Int.dvd_of_emod_eq_zero hzero
      rw [ih, Int.mul_ediv_cancel_left _ (by decide), pow_succ]
      push_cast
      field_simp
    · rfl

theorem multiplyDecimal_value (left right : ParsedDecimal) :
    (multiplyDecimal left right).value = left.value * right.value := by
  rw [multiplyDecimal, dropTrailingZeros_value, ParsedDecimal.value, ParsedDecimal.value, pow_add]
  push_cast
  rw [div_mul_div_comm]

theorem compareDecimal_eq (left right : ParsedDecimal) :
    compareDecimal left right = compare left.value right.value := by
  set scale := max left.scale right.scale with hscale
  have hvalue : ∀ decimal : ParsedDecimal, decimal.scale ≤ scale →
      decimal.value * 10 ^ scale =
        ((decimal.coefficient * 10 ^ (scale - decimal.scale) : ℤ) : ℚ) := by
    intro decimal hle
    rw [ParsedDecimal.value, div_mul_eq_mul_div, div_eq_iff (by positivity)]
    push_cast
    rw [mul_assoc, ← pow_add, Nat.sub_add_cancel hle]
  have hpos : (0 : ℚ) < 10 ^ scale := by positivity
  have hle := hvalue left (le_max_left _ _)
  have hge := hvalue right (le_max_right _ _)
  unfold compareDecimal
  rw [← hscale]
  rcases lt_trichotomy left.value right.value with h | h | h
  · rw [compare_lt_iff_lt.mpr h, compare_lt_iff_lt, ← Int.cast_lt (R := ℚ), ← hle, ← hge]
    exact mul_lt_mul_of_pos_right h hpos
  · rw [compare_eq_iff_eq.mpr h, compare_eq_iff_eq, ← Int.cast_inj (α := ℚ), ← hle, ← hge, h]
  · rw [compare_gt_iff_gt.mpr h, compare_gt_iff_gt, ← Int.cast_lt (R := ℚ), ← hle, ← hge]
    exact mul_lt_mul_of_pos_right h hpos

def slippageBound (side : OrderSide) (bps : ℤ) (reference : ℚ) : ℚ :=
  reference * slippageFactor side bps / 10000

def NoWorse (side : OrderSide) (bound value : ℚ) : Prop :=
  match side with
  | .buy => value ≤ bound
  | .sell => bound ≤ value

variable {side : OrderSide} {precision : PricePrecisionInputs} {text : DecimalText}

theorem insideSlippage_iff {bps : ℤ} {aggressive base : ParsedDecimal} :
    insideSlippage side bps aggressive base ↔
      NoWorse side (slippageBound side bps base.value) aggressive.value := by
  have hleft : (multiplyDecimal aggressive ⟨10000, 0⟩).value = aggressive.value * 10000 := by
    rw [multiplyDecimal_value]
    simp [ParsedDecimal.value]
  have hright : (multiplyDecimal base ⟨slippageFactor side bps, 0⟩).value =
      slippageBound side bps base.value * 10000 := by
    rw [multiplyDecimal_value, slippageBound]
    simp [ParsedDecimal.value]
  cases side with
  | buy =>
    change compareDecimal _ _ ≠ .gt ↔ aggressive.value ≤ _
    rw [compareDecimal_eq, hleft, hright, Ne, compare_gt_iff_gt, not_lt]
    exact mul_le_mul_iff_of_pos_right (by norm_num)
  | sell =>
    change compareDecimal _ _ ≠ .lt ↔ _ ≤ aggressive.value
    rw [compareDecimal_eq, hleft, hright, Ne, compare_lt_iff_lt, not_lt]
    exact mul_le_mul_iff_of_pos_right (by norm_num)

/-- The market rule for prices: whole, or within the decimal places and the
significant figures. -/
def ValidPrice (precision : PricePrecisionInputs) (value : ℚ) : Prop :=
  Significant 10 precision.maxSignificantFigures.toNat precision.maxDecimalPlaces.toNat value

/-- The precision is one that a tradable market can have: that of its family and
size decimals, or a coarser one. -/
def ValidPrecision (precision : PricePrecisionInputs) : Prop :=
  ∃ family sizeDecimals expected,
    pricePrecisionForSizeDecimals family sizeDecimals = some expected ∧
      precisionMatches precision expected

theorem ValidPrecision.bounds (h : ValidPrecision precision) :
    precision.maxSignificantFigures = 5 ∧ 0 ≤ precision.maxDecimalPlaces ∧
      precision.maxDecimalPlaces ≤ 8 := by
  obtain ⟨family, sizeDecimals, expected, hexpected, hfigures, -, hleast, hmost⟩ := h
  simp only [pricePrecisionForSizeDecimals, Option.ite_none_left_eq_some,
    Option.some.injEq] at hexpected
  obtain ⟨hsize, rfl⟩ := hexpected
  refine ⟨hfigures, hleast, hmost.trans ?_⟩
  dsimp only at hsize ⊢
  split_ifs at hsize ⊢ <;> omega

theorem parseDecimal_formatScaled {m s : ℕ} (path : String) (hm : 0 < m) (hlowest : Lowest m s)
    (hlength : utf16Length (formatScaled m s) ≤ maxDecimalInputLength) :
    parseDecimal (formatScaled m s) path = .ok ⟨m, s⟩ := by
  obtain ⟨text, hread, hsign, hlast, hvalue⟩ := exists_readDecimal_formatScaled m s
  have hstrip : stripZeros text.fraction = text.fraction := stripZeros_of_getLast? hlast
  have hparse : parseDecimal (formatScaled m s) path =
      .ok ⟨text.coefficient, text.fraction.length⟩ := by
    rw [parseDecimal, require_of hlength, hread]
    change Except.ok (⟨if text.negative then _ else _, _⟩ : ParsedDecimal) = _
    rw [hsign, hstrip]
    rfl
  have hpositive : 0 < text.coefficient := by
    rw [DecimalText.value_of_not_negative hsign] at hvalue
    have hcast : (0 : ℚ) < m / 10 ^ s := by positivity
    rw [← hvalue] at hcast
    exact Nat.pos_of_ne_zero fun hzero => by simp [hzero] at hcast
  have htext : Lowest text.coefficient text.fraction.length := by
    intro hscale
    have hmod : (text.coefficient : ℤ) % 10 ≠ 0 :=
      parseDecimal_lowest hparse (Int.natCast_pos.mpr hpositive) hscale
    omega
  rw [DecimalText.value_of_not_negative hsign] at hvalue
  obtain ⟨hcoefficient, hscale⟩ := lowest_unique htext hlowest hvalue
  rw [hparse, hcoefficient, hscale]

theorem normalizePrice_formatScaled {n : ℕ} (hn : 0 < n) (scale : ℕ) {market : ActionMarketRules}
    (hprecision : ValidPrecision precision)
    (hmarket : market.pricePrecision = some precision) (normal : String) :
    normalizePrice (formatScaled n scale) market = .ok normal ↔
      normal = formatScaled n scale ∧
        utf16Length (formatScaled n scale) ≤ maxDecimalInputLength ∧
        ValidPrice precision ((n : ℚ) / 10 ^ scale) := by
  obtain ⟨m, s, hlowest, hm, hs, hnm, hformat⟩ := exists_lowest hn scale
  obtain ⟨hfigures, hplaces, -⟩ := hprecision.bounds
  have hvalue : (n : ℚ) / 10 ^ scale = (m : ℚ) / 10 ^ s := by
    rw [div_eq_div_iff (by positivity) (by positivity), hnm]
    push_cast
    rw [mul_assoc, ← pow_add, Nat.sub_add_cancel hs]
  rw [hvalue, hformat, ValidPrice, significant_lowest_iff hlowest hm]
  by_cases hlength : utf16Length (formatScaled m s) ≤ maxDecimalInputLength
  · have hparse := parseDecimal_formatScaled "intent.price" hm hlowest hlength
    have hself : formatDecimal ⟨m, s⟩ = formatScaled m s :=
      formatDecimal_eq_formatScaled (Int.natCast_pos.mpr hm) fun hscale => by
        have hmod := hlowest hscale
        change (m : ℤ) % 10 ≠ 0
        omega
    have hdigits : (significantDigits ⟨m, s⟩ : ℤ) ≤ precision.maxSignificantFigures ↔
        m < 10 ^ precision.maxSignificantFigures.toNat := by
      have hne : (m : ℤ) ≠ 0 := by exact_mod_cast hm.ne'
      rw [significantDigits, if_neg hne, Int.natAbs_natCast, hfigures,
        ← length_numberDigits_le_iff (by decide)]
      exact Nat.cast_le
    have hcast : (0 : ℤ) < m := by exact_mod_cast hm
    simp only [normalizePrice, positiveDecimal, hparse, present, hmarket, hself,
      Option.elim, except_bind_eq_ok, require_eq_ok, Except.ok.injEq, exists_eq_left', hcast,
      hdigits, pure, Except.pure, exists_const, true_and, hlength]
    constructor
    · rintro ⟨hscale, hcount, rfl⟩
      exact ⟨rfl, by omega, hcount⟩
    · rintro ⟨rfl, hscale, hcount⟩
      exact ⟨by omega, hcount, rfl⟩
  · constructor
    · intro h
      simp only [normalizePrice, positiveDecimal, parseDecimal, except_bind_eq_ok,
        require_eq_ok] at h
      obtain ⟨_, ⟨_, ⟨_, hshort, -⟩, -⟩, -⟩ := h
      exact absurd hshort hlength
    · exact fun h => absurd h.2.1 hlength

theorem DecimalText.value_pos (hsign : text.negative = false)
    (hpositive : 0 < text.coefficient) : 0 < text.value := by
  rw [value_of_not_negative hsign]
  have hcast : (0 : ℚ) < text.coefficient := by exact_mod_cast hpositive
  positivity

theorem magnitude_eq_length (hsign : text.negative = false) (hpositive : 0 < text.coefficient) :
    magnitude 10 text.value =
      ((numberDigits text.coefficient).length - text.fraction.length : ℤ) := by
  have hvalue := DecimalText.value_pos hsign hpositive
  have hlength : 0 < (numberDigits text.coefficient).length :=
    List.length_pos_iff.mpr (numberDigits_ne_nil _)
  have hiff : ∀ k : ℤ, magnitude 10 text.value ≤ k ↔
      ((numberDigits text.coefficient).length - text.fraction.length : ℤ) ≤ k := by
    intro k
    rw [magnitude_le_iff (by decide) hvalue, DecimalText.value_of_not_negative hsign,
      div_lt_iff₀ (by positivity), Nat.cast_ofNat, ← zpow_natCast,
      ← zpow_add₀ (by norm_num : (10 : ℚ) ≠ 0)]
    rcases le_or_gt (k + text.fraction.length) 0 with hsmall | hlarge
    · have hone : (1 : ℚ) ≤ text.coefficient := by exact_mod_cast hpositive
      have hpow : (10 : ℚ) ^ (k + text.fraction.length) ≤ 1 :=
        zpow_le_one_of_nonpos₀ (by norm_num) hsmall
      constructor
      · intro h
        linarith
      · intro h
        omega
    · obtain ⟨e, he⟩ : ∃ e : ℕ, k + text.fraction.length = e :=
        ⟨(k + text.fraction.length).toNat, by omega⟩
      have hdigits := length_numberDigits_le_iff (n := text.coefficient) (k := e) (by omega)
      rw [he, zpow_natCast]
      constructor
      · intro h
        have hle := hdigits.mpr (by exact_mod_cast h)
        omega
      · intro h
        exact_mod_cast hdigits.mp (by omega)
  exact le_antisymm ((hiff _).mpr le_rfl) ((hiff _).mp le_rfl)

def priceScale (precision : PricePrecisionInputs) (k : ℤ) : ℕ :=
  gridScale precision.maxSignificantFigures.toNat precision.maxDecimalPlaces.toNat k

theorem targetScale_eq {reference : DecimalText}
    (hprecision : ValidPrecision precision) (hsign : reference.negative = false)
    (hpositive : 0 < reference.coefficient) :
    targetScale reference precision =
      priceScale precision (max 1 (magnitude 10 reference.value)) := by
  obtain ⟨hfigures, hplaces, -⟩ := hprecision.bounds
  rw [magnitude_eq_length hsign hpositive]
  unfold targetScale priceScale gridScale
  rw [Int.toNat_of_nonneg hplaces, hfigures]
  rfl

def roundedBound (side : OrderSide) (scale : ℕ) (bound : ℚ) : ℚ :=
  match side with
  | .buy => roundDown 10 scale bound
  | .sell => roundUp 10 scale bound

theorem roundedQuotient_sell_eq_ceil (numerator : ℕ) {denominator : ℕ}
    (hdenominator : 0 < denominator) :
    roundedQuotient .sell numerator denominator = ⌈(numerator : ℚ) / denominator⌉₊ := by
  have hpos : (0 : ℚ) < denominator := by exact_mod_cast hdenominator
  apply le_antisymm
  · have hceil : numerator ≤ ⌈(numerator : ℚ) / denominator⌉₊ * denominator := by
      have hle := Nat.le_ceil ((numerator : ℚ) / denominator)
      rw [div_le_iff₀ hpos] at hle
      exact_mod_cast hle
    have hsplit := Nat.div_add_mod numerator denominator
    simp only [roundedQuotient]
    split
    · rw [add_zero]
      exact Nat.div_le_of_le_mul (by rwa [mul_comm])
    · rename_i hmod
      apply Nat.succ_le_of_lt
      rw [Nat.div_lt_iff_lt_mul hdenominator]
      refine lt_of_le_of_ne hceil fun heq => hmod ?_
      rw [heq, Nat.mul_mod_left]
  · exact Nat.ceil_le.mpr (le_roundedQuotient_sell numerator hdenominator)

theorem aggressiveOrderPrice_spec {referencePrice price : String} {slippageBps : ℤ}
    (hprecision : ValidPrecision precision)
    (h : aggressiveOrderPrice referencePrice side slippageBps precision = .ok price) :
    ∃ (reference : ℚ) (coefficient scale : ℕ), decimalValue referencePrice = some reference ∧
      (isSafeInteger slippageBps ∧ 0 ≤ slippageBps ∧ slippageBps ≤ 500) ∧ 0 < reference ∧
      scale = priceScale precision (max 1 (magnitude 10 reference)) ∧ 0 < coefficient ∧
      price = formatScaled coefficient scale ∧
      (coefficient : ℚ) / 10 ^ scale =
        roundedBound side scale (slippageBound side slippageBps reference) := by
  unfold aggressiveOrderPrice at h
  simp only [except_bind_eq_ok, require_eq_ok, pure, Except.pure, Except.ok.injEq] at h
  obtain ⟨_, hbps, reference, hread, _, hsign, _, hpositive, _, hcoefficient, rfl⟩ := h
  have hread : readDecimal referencePrice = some reference := by
    cases hr : readDecimal referencePrice with
    | none => simp [hr] at hread
    | some found =>
      rw [hr] at hread
      cases hread
      rfl
  refine ⟨reference.value, _, _, by rw [decimalValue, hread, Option.map_some], hbps,
    DecimalText.value_pos hsign hpositive, targetScale_eq hprecision hsign hpositive,
    hcoefficient, rfl, ?_⟩
  have hfactor : (((slippageFactor side slippageBps).toNat : ℕ) : ℚ) =
      slippageFactor side slippageBps := by
    have hint : ((slippageFactor side slippageBps).toNat : ℤ) =
        slippageFactor side slippageBps := by
      unfold slippageFactor
      split <;> omega
    exact_mod_cast congrArg (Int.cast (R := ℚ)) hint
  have hquotient : slippageBound side slippageBps reference.value *
      10 ^ targetScale reference precision =
        (reference.coefficient * (slippageFactor side slippageBps).toNat *
          10 ^ targetScale reference precision : ℕ) /
          (10 ^ reference.fraction.length * 10000 : ℕ) := by
    rw [slippageBound, DecimalText.value_of_not_negative hsign]
    push_cast
    rw [hfactor]
    field_simp
  cases side with
  | buy =>
    rw [roundedBound, roundDown, Nat.cast_ofNat, hquotient, Nat.floor_div_eq_div]
    rfl
  | sell =>
    rw [roundedBound, roundUp, Nat.cast_ofNat, hquotient,
      roundedQuotient_sell_eq_ceil _ (by positivity)]

end HyperTrader
