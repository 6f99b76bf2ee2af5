import HyperTrader.Actions.Values
import HyperTrader.Library.Nearest

/-!
# The nearest price that can be edited

A live reference is shown as the nearest price that the market accepts, with ties
upward. The scale is that of the reference's own magnitude, below one whole digit as
well, so no price of the market is nearer.
-/

namespace HyperTrader

open Library

def nearestScale (reference : DecimalText) (precision : PricePrecisionInputs) : ℕ :=
  let wholeDigits : ℤ :=
    (numberDigits reference.coefficient).length - reference.fraction.length
  (max 0 (min precision.maxDecimalPlaces (precision.maxSignificantFigures - wholeDigits))).toNat

def nearestQuotient (numerator denominator : ℕ) : ℕ :=
  numerator / denominator + if denominator ≤ numerator % denominator * 2 then 1 else 0

def roundedPriceInputValue (price : Option String) (precision : Option PricePrecisionInputs) :
    Option String := do
  let precision ← precision
  let reference ← price.bind readDecimal
  guard (reference.negative = false)
  guard (0 < reference.coefficient)
  let scale := nearestScale reference precision
  let rounded := nearestQuotient (reference.coefficient * 10 ^ scale)
    (10 ^ reference.fraction.length)
  guard (0 < rounded)
  pure (formatScaled rounded scale)

theorem nearestScale_eq {reference : DecimalText} {precision : PricePrecisionInputs}
    (hprecision : ValidPrecision precision) (hsign : reference.negative = false)
    (hpositive : 0 < reference.coefficient) :
    nearestScale reference precision = priceScale precision (magnitude 10 reference.value) := by
  obtain ⟨hfigures, hplaces, -⟩ := hprecision.bounds
  rw [magnitude_eq_length hsign hpositive]
  unfold nearestScale priceScale gridScale
  rw [Int.toNat_of_nonneg hplaces, hfigures]
  rfl

theorem nearestQuotient_eq_floor (numerator : ℕ) {denominator : ℕ}
    (hdenominator : 0 < denominator) :
    nearestQuotient numerator denominator = ⌊(numerator : ℚ) / denominator + 1 / 2⌋₊ := by
  have hpos : (0 : ℚ) < denominator := by exact_mod_cast hdenominator
  have hsplit := Nat.div_add_mod numerator denominator
  have hlt := Nat.mod_lt numerator hdenominator
  have hcast : (numerator : ℚ) =
      denominator * (numerator / denominator : ℕ) + (numerator % denominator : ℕ) := by
    exact_mod_cast hsplit.symm
  have hlt' : ((numerator % denominator : ℕ) : ℚ) < denominator := by exact_mod_cast hlt
  symm
  rw [Nat.floor_eq_iff (by positivity), nearestQuotient]
  have hvalue : (numerator : ℚ) / denominator =
      (numerator / denominator : ℕ) + (numerator % denominator : ℕ) / denominator := by
    rw [hcast]
    field_simp
  rw [hvalue]
  have hnonneg : (0 : ℚ) ≤ (numerator % denominator : ℕ) / denominator := by positivity
  have hless : ((numerator % denominator : ℕ) : ℚ) / denominator < 1 :=
    (div_lt_one hpos).mpr hlt'
  split_ifs with hnear
  · have hhalf : (1 : ℚ) / 2 ≤ (numerator % denominator : ℕ) / denominator := by
      rw [div_le_div_iff₀ (by norm_num) hpos, one_mul]
      exact_mod_cast hnear
    push_cast
    constructor <;> linarith
  · have hhalf : ((numerator % denominator : ℕ) : ℚ) / denominator < 1 / 2 := by
      rw [div_lt_div_iff₀ hpos (by norm_num), one_mul]
      exact_mod_cast not_le.mp hnear
    push_cast
    constructor <;> linarith

def IsPositiveDecimal (price : String) (value : ℚ) : Prop :=
  decimalValue price = some value ∧ 0 < value

theorem DecimalText.positive_of_value {text : DecimalText} (h : 0 < text.value) :
    text.negative = false ∧ 0 < text.coefficient := by
  unfold DecimalText.value at h
  have hnonneg : (0 : ℚ) ≤ text.coefficient / 10 ^ text.fraction.length := by positivity
  cases hsign : text.negative with
  | true =>
    simp only [hsign, if_true] at h
    rw [neg_one_mul, neg_div] at h
    linarith
  | false =>
    refine ⟨rfl, Nat.pos_of_ne_zero fun hzero => ?_⟩
    rw [hzero, Nat.cast_zero, mul_zero, zero_div] at h
    exact lt_irrefl _ h

variable {value : ℚ}

theorem isPositiveDecimal_iff {price : String} :
    IsPositiveDecimal price value ↔ ∃ text, readDecimal price = some text ∧
      text.negative = false ∧ 0 < text.coefficient ∧ text.value = value := by
  constructor
  · rintro ⟨hvalue, hpositive⟩
    obtain ⟨text, hread, rfl⟩ := Option.map_eq_some_iff.mp hvalue
    obtain ⟨hsign, hcoefficient⟩ := DecimalText.positive_of_value hpositive
    exact ⟨text, hread, hsign, hcoefficient, rfl⟩
  · rintro ⟨text, hread, hsign, hcoefficient, rfl⟩
    exact ⟨by rw [decimalValue, hread, Option.map_some],
      DecimalText.value_pos hsign hcoefficient⟩

theorem roundedPriceInputValue_eq_none {price : String} {precision : PricePrecisionInputs}
    (h : ∀ value, ¬IsPositiveDecimal price value) :
    roundedPriceInputValue (some price) (some precision) = none := by
  unfold roundedPriceInputValue
  cases hread : readDecimal price with
  | none => simp [hread]
  | some text =>
    by_cases hsign : text.negative = false
    · by_cases hcoefficient : 0 < text.coefficient
      · exact absurd (isPositiveDecimal_iff.mpr ⟨text, hread, hsign, hcoefficient, rfl⟩)
          (h text.value)
      · simp [hread, hsign, hcoefficient, guard]
    · simp [hread, hsign, guard]

theorem roundedPriceInputValue_eq {price : String}
    {precision : PricePrecisionInputs} (hprecision : ValidPrecision precision)
    (h : IsPositiveDecimal price value) :
    ∃ coefficient : ℕ, (coefficient : ℚ) / 10 ^ priceScale precision (magnitude 10 value) =
        roundNearest 10 (priceScale precision (magnitude 10 value)) value ∧
      roundedPriceInputValue (some price) (some precision) =
        if 0 < coefficient then
          some (formatScaled coefficient (priceScale precision (magnitude 10 value)))
        else none := by
  obtain ⟨text, hread, hsign, hcoefficient, rfl⟩ := isPositiveDecimal_iff.mp h
  rw [← nearestScale_eq hprecision hsign hcoefficient]
  refine ⟨nearestQuotient (text.coefficient * 10 ^ nearestScale text precision)
    (10 ^ text.fraction.length), ?_, ?_⟩
  · rw [nearestQuotient_eq_floor _ (by positivity), roundNearest,
      DecimalText.value_of_not_negative hsign]
    push_cast
    rw [div_mul_eq_mul_div]
  · unfold roundedPriceInputValue
    simp only [hread, hsign, hcoefficient, guard, Option.bind_eq_bind, Option.bind_some,
      if_true, pure]
    split_ifs with hrounded
    · rfl
    · rfl

def NearestPrice (precision : PricePrecisionInputs) (value price : ℚ) : Prop :=
  IsNearest {x | ValidPrice precision x} value price

structure RoundsToNearest (precision : PricePrecisionInputs) (price : String) : Prop where
  /-- The price is the market's nearest one, and the validator takes it as it is unless it
  is too long a text. -/
  nearest : ∀ rounded, roundedPriceInputValue (some price) (some precision) = some rounded →
    ∃ value result, IsPositiveDecimal price value ∧ decimalValue rounded = some result ∧
      NearestPrice precision value result ∧
      ∀ market : ActionMarketRules, market.pricePrecision = some precision →
        utf16Length rounded ≤ maxDecimalInputLength →
          normalizePrice rounded market = .ok rounded
  /-- There is none exactly where zero is nearer than every price of the market, or where
  the text is no positive decimal. -/
  null : roundedPriceInputValue (some price) (some precision) = none ↔
    ∀ value, IsPositiveDecimal price value →
      ∀ p, ValidPrice precision p → |0 - value| < |p - value|
  /-- A price of the market keeps its value, and the validator's text of it is kept. -/
  identity : (∀ value, IsPositiveDecimal price value → ValidPrice precision value →
      ∃ rounded, roundedPriceInputValue (some price) (some precision) = some rounded ∧
        decimalValue rounded = some value) ∧
    ∀ (market : ActionMarketRules) normal, market.pricePrecision = some precision →
      normalizePrice price market = .ok normal →
        roundedPriceInputValue (some price) (some precision) = some normal
  idempotent : ∀ rounded, roundedPriceInputValue (some price) (some precision) = some rounded →
    roundedPriceInputValue (some rounded) (some precision) = some rounded

section

variable {price : String} {precision : PricePrecisionInputs} {value : ℚ} {rounded : String}

theorem IsPositiveDecimal.unique {value' : ℚ} (h : IsPositiveDecimal price value)
    (h' : IsPositiveDecimal price value') : value = value' :=
  Option.some.inj (h.1.symm.trans h'.1)

theorem ValidPrecision.figures_pos (hprecision : ValidPrecision precision) :
    0 < precision.maxSignificantFigures.toNat := by
  rw [hprecision.bounds.1]
  decide

theorem rounded_nearest (hprecision : ValidPrecision precision)
    (hvalue : IsPositiveDecimal price value)
    (h : roundedPriceInputValue (some price) (some precision) = some rounded) :
    ∃ coefficient scale : ℕ, 0 < coefficient ∧ rounded = formatScaled coefficient scale ∧
      (coefficient : ℚ) / 10 ^ scale =
        roundNearest 10 (priceScale precision (magnitude 10 value)) value ∧
      NearestPrice precision value ((coefficient : ℚ) / 10 ^ scale) := by
  obtain ⟨coefficient, hcoefficient, hrounded⟩ := roundedPriceInputValue_eq hprecision hvalue
  rw [hrounded] at h
  split_ifs at h with hpositive
  cases h
  refine ⟨coefficient, _, hpositive, rfl, hcoefficient, ?_⟩
  have hleft : 0 < roundNearest 10 (priceScale precision (magnitude 10 value)) value := by
    rw [← hcoefficient]
    positivity
  rw [hcoefficient]
  exact isNearest_roundNearest (by decide) hprecision.figures_pos hvalue.2 hleft

theorem isPositiveDecimal_of_rounded
    (h : roundedPriceInputValue (some price) (some precision) = some rounded) :
    ∃ value, IsPositiveDecimal price value := by
  by_contra hnone
  rw [roundedPriceInputValue_eq_none (not_exists.mp hnone)] at h
  cases h

theorem rounded_eq_none_iff (hprecision : ValidPrecision precision) :
    roundedPriceInputValue (some price) (some precision) = none ↔
      ∀ value, IsPositiveDecimal price value →
        ∀ p, ValidPrice precision p → |0 - value| < |p - value| := by
  by_cases hprice : ∃ value, IsPositiveDecimal price value
  · obtain ⟨value, hvalue⟩ := hprice
    obtain ⟨coefficient, hcoefficient, hrounded⟩ := roundedPriceInputValue_eq hprecision hvalue
    have hscale : (0 : ℚ) < 10 ^ priceScale precision (magnitude 10 value) := by positivity
    have hpositive : 0 < coefficient ↔
        ∃ p, ValidPrice precision p ∧ |p - value| ≤ value := by
      rw [← @Nat.cast_pos ℚ, ← div_pos_iff_of_pos_right hscale, hcoefficient]
      exact roundNearest_pos_iff (by decide) hprecision.figures_pos hvalue.2
    rw [hrounded, ite_eq_right_iff]
    constructor
    · intro hnone other hother p hp
      rw [hother.unique hvalue, zero_sub, abs_neg, abs_of_pos hvalue.2]
      by_contra hle
      cases hnone (hpositive.mpr ⟨p, hp, not_lt.mp hle⟩)
    · intro hnearer hleft
      obtain ⟨p, hp, hle⟩ := hpositive.mp hleft
      have hlt := hnearer value hvalue p hp
      rw [zero_sub, abs_neg, abs_of_pos hvalue.2] at hlt
      exact absurd hle hlt.not_ge
  · have hnone := not_exists.mp hprice
    exact iff_of_true (roundedPriceInputValue_eq_none hnone)
      fun value hvalue => absurd hvalue (hnone value)

theorem rounded_of_valid (hprecision : ValidPrecision precision) {m s : ℕ} (hm : 0 < m)
    (hvalue : decimalValue price = some ((m : ℚ) / 10 ^ s))
    (hvalid : ValidPrice precision ((m : ℚ) / 10 ^ s)) :
    roundedPriceInputValue (some price) (some precision) = some (formatScaled m s) := by
  have hprice : IsPositiveDecimal price ((m : ℚ) / 10 ^ s) := ⟨hvalue, by positivity⟩
  obtain ⟨coefficient, hcoefficient, hrounded⟩ := roundedPriceInputValue_eq hprecision hprice
  have hself : roundNearest 10
      (priceScale precision (magnitude 10 ((m : ℚ) / 10 ^ s))) ((m : ℚ) / 10 ^ s) =
        (m : ℚ) / 10 ^ s :=
    roundNearest_of_significant (by decide) hprecision.figures_pos hvalid
  rw [hself] at hcoefficient
  have hpositive : 0 < coefficient := by
    have hcast : (0 : ℚ) < m / 10 ^ s := by positivity
    rw [← hcoefficient] at hcast
    exact Nat.pos_of_ne_zero fun hzero => by simp [hzero] at hcast
  rw [hrounded, if_pos hpositive, formatScaled_eq_of_value hpositive hm hcoefficient]

/-- **A price input is rounded to the nearest price of the market**, and is none exactly
where nothing is left of it. -/
theorem rounds_to_nearest (hprecision : ValidPrecision precision) (price : String) :
    RoundsToNearest precision price := by
  constructor
  · intro rounded h
    obtain ⟨value, hvalue⟩ := isPositiveDecimal_of_rounded h
    obtain ⟨coefficient, scale, hpositive, rfl, -, hnearest⟩ :=
      rounded_nearest hprecision hvalue h
    refine ⟨value, _, hvalue, formatScaled_value _ _, hnearest, fun market hmarket hlength => ?_⟩
    exact (normalizePrice_formatScaled hpositive scale hprecision hmarket _).mpr
      ⟨rfl, hlength, hnearest.1⟩
  · exact rounded_eq_none_iff hprecision
  · constructor
    · intro value hvalue hvalid
      cases hrounded : roundedPriceInputValue (some price) (some precision) with
      | none =>
        have hnearer := (rounded_eq_none_iff hprecision).mp hrounded value hvalue value hvalid
        rw [sub_self, abs_zero] at hnearer
        exact absurd hnearer (abs_nonneg _).not_gt
      | some rounded =>
        obtain ⟨coefficient, scale, -, rfl, -, hnearest⟩ :=
          rounded_nearest hprecision hvalue hrounded
        refine ⟨_, rfl, ?_⟩
        rw [formatScaled_value, hnearest.unique (isNearest_self hvalid)]
    · intro market normal hmarket h
      obtain ⟨m, s, hm, rfl, hvalue, hvalid⟩ :=
        validPrice_of_normalizePrice hprecision hmarket h
      exact rounded_of_valid hprecision hm hvalue hvalid
  · intro rounded h
    obtain ⟨value, hvalue⟩ := isPositiveDecimal_of_rounded h
    obtain ⟨coefficient, scale, hpositive, rfl, -, hnearest⟩ :=
      rounded_nearest hprecision hvalue h
    exact rounded_of_valid hprecision hpositive (formatScaled_value _ _) hnearest.1

/-- A reference between two prices of the market, at equal distance. -/
theorem rounds_to_nearest_tie :
    RoundsToNearest ⟨5, 4⟩ "1.00005" ∧
      roundedPriceInputValue (some "1.00005") (some ⟨5, 4⟩) = some "1.0001" :=
  ⟨rounds_to_nearest ⟨.perp, 2, ⟨5, 4⟩, rfl, by decide⟩ _, by decide⟩

end

end HyperTrader
