import HyperTrader.Actions.PriceGrid
import HyperTrader.Actions.Terms

/-!
# When a derived price is accepted, and when it is tight

The scale of a market order's price is taken from the magnitude of the
reference, not from that of the slippage bound. The validator accepts the price
unless the bound of a purchase crosses a power of ten and keeps a decimal that
is not allowed there (`derived_price_submittable_iff`). The price is the market's
nearest one to the bound if and only if the two scales round the bound to the
same value (`derived_price_tight_iff`).
-/

namespace HyperTrader

open Library

/-- The bound is less than one finer unit from a multiple of the coarser unit, on
the side the price is rounded to. -/
def NearCoarser (side : OrderSide) (coarse fine : ℕ) (bound : ℚ) : Prop :=
  ∃ n : ℕ, match side with
    | .buy => (n : ℚ) / 10 ^ coarse ≤ bound ∧ bound < n / 10 ^ coarse + 1 / 10 ^ fine
    | .sell => bound ≤ (n : ℚ) / 10 ^ coarse ∧ (n : ℚ) / 10 ^ coarse < bound + 1 / 10 ^ fine

variable {bound reference value : ℚ} {bps : ℤ} {precision : PricePrecisionInputs} {side : OrderSide}
  {text : DecimalText} {referencePrice : String}

theorem roundedBound_eq_iff (side : OrderSide) {coarse fine : ℕ} (hle : coarse ≤ fine)
    (hbound : 0 < bound) :
    roundedBound side coarse bound = roundedBound side fine bound ↔
      NearCoarser side coarse fine bound := by
  cases side with
  | buy =>
    have h := roundDown_eq_iff (b := 10) (by decide) hle hbound.le
    simp only [Nat.cast_ofNat] at h
    exact h
  | sell =>
    have h := roundUp_eq_iff (b := 10) (by decide) hle hbound
    simp only [Nat.cast_ofNat] at h
    exact h

/-! ### The magnitude of the bound -/

theorem slippageBound_bounds (side : OrderSide)
    (hleast : 0 ≤ bps) (hmost : bps ≤ 500) (hreference : 0 < reference) :
    0 < slippageBound side bps reference ∧
      slippageBound side bps reference ≤ reference * 2 ∧
      (side = .sell → slippageBound side bps reference ≤ reference) ∧
      (side = .buy → reference ≤ slippageBound side bps reference) := by
  have hleast' : (0 : ℚ) ≤ bps := by exact_mod_cast hleast
  have hmost' : (bps : ℚ) ≤ 500 := by exact_mod_cast hmost
  cases side with
  | buy =>
    simp only [slippageBound, slippageFactor, Int.cast_add, Int.cast_ofNat]
    refine ⟨by positivity, ?_, (fun h => by cases h), fun _ => ?_⟩
    · rw [div_le_iff₀ (by norm_num)]
      nlinarith
    · rw [le_div_iff₀ (by norm_num)]
      nlinarith
  | sell =>
    simp only [slippageBound, slippageFactor, Int.cast_sub, Int.cast_ofNat]
    refine ⟨?_, ?_, fun _ => ?_, fun h => by cases h⟩
    · have hfactor : (0 : ℚ) < 10000 - bps := by linarith
      positivity
    · rw [div_le_iff₀ (by norm_num)]
      nlinarith
    · rw [div_le_iff₀ (by norm_num)]
      nlinarith

def wholeDigits (reference : ℚ) : ℤ := max 1 (magnitude 10 reference)

theorem lt_zpow_wholeDigits (reference : ℚ) : reference < 10 ^ wholeDigits reference :=
  (lt_zpow_magnitude (b := 10) (by decide) reference).trans_le
    (zpow_le_zpow_right₀ (by norm_num) (le_max_right _ _))

theorem roundedBound_le (side : OrderSide) (scale : ℕ)
    (hleast : 0 ≤ bps) (hmost : bps ≤ 500) (hreference : 0 < reference) :
    roundedBound side scale (slippageBound side bps reference) ≤
        10 ^ (wholeDigits reference + 1) ∧
      (side = .sell → roundedBound side scale (slippageBound side bps reference) ≤
        10 ^ wholeDigits reference) := by
  obtain ⟨hpos, hdouble, hsell, -⟩ := slippageBound_bounds side hleast hmost hreference
  have hone : 1 ≤ wholeDigits reference := le_max_left _ _
  have hpower := lt_zpow_wholeDigits reference
  have hnext : (10 : ℚ) ^ (wholeDigits reference + 1) = 10 ^ wholeDigits reference * 10 :=
    zpow_add_one₀ (by norm_num) _
  cases side with
  | buy =>
    refine ⟨?_, fun h => by cases h⟩
    have hdown : roundDown 10 scale _ ≤ slippageBound .buy bps reference :=
      roundDown_le (by decide) hpos.le
    calc roundDown 10 scale (slippageBound .buy bps reference)
        ≤ slippageBound .buy bps reference := hdown
      _ ≤ reference * 2 := hdouble
      _ ≤ 10 ^ (wholeDigits reference + 1) := by
          rw [hnext]
          linarith
  | sell =>
    have hgrid : OnGrid 10 scale ((10 : ℚ) ^ wholeDigits reference) :=
      onGrid_zpow (by decide) (by omega)
    have hup : roundUp 10 scale (slippageBound .sell bps reference) ≤
        10 ^ wholeDigits reference :=
      hgrid.roundUp_le (by decide) ((hsell rfl).trans hpower.le)
    refine ⟨hup.trans ?_, fun _ => hup⟩
    exact zpow_le_zpow_right₀ (by norm_num) (by omega)

/-! ### When the price is one of the market's -/

/-- Where the bound of a purchase crosses the power of ten above the reference, it
is less than one unit of the finer scale above a multiple of the coarser. -/
def KeepsPrecision (precision : PricePrecisionInputs) (side : OrderSide)
    (reference bound : ℚ) : Prop :=
  side = .buy → 10 ^ wholeDigits reference ≤ bound →
    NearCoarser .buy (priceScale precision (wholeDigits reference + 1))
      (priceScale precision (wholeDigits reference)) bound

theorem validPrice_of_le (hprecision : ValidPrecision precision) (hvalue : 0 < value)
    (hgrid : OnGrid 10 (priceScale precision (wholeDigits reference)) value)
    (hle : value ≤ 10 ^ wholeDigits reference) : ValidPrice precision value := by
  have hone : 1 ≤ wholeDigits reference := le_max_left _ _
  rcases hle.lt_or_eq with hlt | rfl
  · refine OnGrid.significant (by decide) hvalue (hgrid.mono (by decide) ?_)
    exact gridScale_antitone _ _ ((magnitude_le_iff (by decide) hvalue _).mpr hlt)
  · have hfigures := hprecision.bounds.1
    exact significant_zpow (b := 10) (by decide) (by omega) (by omega)

/-- Above the reference's power of ten, a purchase's bound rounded at the
reference's scale is a price of the market only where rounding at the coarser
scale gives the same. -/
theorem validPrice_iff_of_crossed (habove : 10 ^ wholeDigits reference ≤ bound)
    (hnext : bound < 10 ^ (wholeDigits reference + 1)) :
    ValidPrice precision (roundedBound .buy (priceScale precision (wholeDigits reference)) bound) ↔
      NearCoarser .buy (priceScale precision (wholeDigits reference + 1))
        (priceScale precision (wholeDigits reference)) bound := by
  have hone : 1 ≤ wholeDigits reference := le_max_left _ _
  have hpos : 0 < bound := (by positivity : (0 : ℚ) < 10 ^ wholeDigits reference).trans_le habove
  have hcoarse : priceScale precision (wholeDigits reference + 1) ≤
      priceScale precision (wholeDigits reference) := gridScale_antitone _ _ (by omega)
  rw [← roundedBound_eq_iff .buy hcoarse hpos]
  change ValidPrice precision (roundDown 10 _ bound) ↔ roundDown 10 _ bound = roundDown 10 _ bound
  set value := roundDown 10 (priceScale precision (wholeDigits reference)) bound
  have hdown : value ≤ bound := roundDown_le (by decide) hpos.le
  have hcrossed : (10 : ℚ) ^ wholeDigits reference ≤ value :=
    (onGrid_zpow (by decide) (by omega)).le_roundDown (by decide) habove
  have hpositive : 0 < value :=
    (by positivity : (0 : ℚ) < 10 ^ wholeDigits reference).trans_le hcrossed
  have hmagnitude : magnitude 10 value = wholeDigits reference + 1 := by
    have hhigh := (magnitude_le_iff (b := 10) (by decide) hpositive _).mpr
      (hdown.trans_lt hnext)
    have hlow := (zpow_le_iff (b := 10) (by decide) hpositive _).mp hcrossed
    omega
  rw [ValidPrice, significant_iff_onGrid (by decide) hpositive, hmagnitude]
  exact onGrid_roundDown_iff (by decide) hcoarse hpos.le

theorem validPrice_iff (hprecision : ValidPrecision precision) (hleast : 0 ≤ bps)
    (hmost : bps ≤ 500) (hreference : 0 < reference)
    (hpositive : 0 < roundedBound side (priceScale precision (wholeDigits reference))
      (slippageBound side bps reference)) :
    ValidPrice precision (roundedBound side (priceScale precision (wholeDigits reference))
        (slippageBound side bps reference)) ↔
      KeepsPrecision precision side reference (slippageBound side bps reference) := by
  obtain ⟨hpos, hdouble, -⟩ := slippageBound_bounds side hleast hmost hreference
  cases side with
  | sell =>
    refine iff_of_true ?_ fun h => by cases h
    exact validPrice_of_le hprecision hpositive ⟨_, rfl⟩
      ((roundedBound_le .sell _ hleast hmost hreference).2 rfl)
  | buy =>
    rcases lt_or_ge (slippageBound .buy bps reference) (10 ^ wholeDigits reference)
      with hbelow | habove
    · refine iff_of_true ?_ fun _ hge => absurd hge (not_le.mpr hbelow)
      exact validPrice_of_le hprecision hpositive ⟨_, rfl⟩
        ((roundDown_le (by decide) hpos.le).trans hbelow.le)
    · have hnext : slippageBound .buy bps reference < 10 ^ (wholeDigits reference + 1) := by
        have hpower := lt_zpow_wholeDigits reference
        rw [zpow_add_one₀ (by norm_num : (10 : ℚ) ≠ 0)]
        linarith
      rw [validPrice_iff_of_crossed habove hnext]
      exact ⟨fun h _ _ => h, fun h => h rfl habove⟩

/-! ### Whether the texts are short enough -/

theorem DecimalText.not_negative_of_pos (hpos : 0 < text.value) : text.negative = false := by
  by_contra hnegative
  rw [Bool.not_eq_false] at hnegative
  have hcast : (0 : ℚ) ≤ text.coefficient / 10 ^ text.fraction.length := by positivity
  simp only [DecimalText.value, hnegative, if_true] at hpos
  rw [neg_one_mul, neg_div] at hpos
  linarith

theorem DecimalText.eta_of_not_negative (h : text.negative = false) :
    (⟨false, text.whole, text.fraction⟩ : DecimalText) = text := by
  rw [← h]

theorem exists_natCast_of_length
    (hreference : decimalValue referencePrice = some reference) (hpos : 0 < reference)
    (hlength : utf16Length referencePrice ≤ maxDecimalInputLength) :
    ∃ n : ℕ, reference ≤ n ∧ n < 10 ^ maxDecimalInputLength := by
  rw [decimalValue, Option.map_eq_some_iff] at hreference
  obtain ⟨text, hread, rfl⟩ := hreference
  have hsign : text.negative = false := DecimalText.not_negative_of_pos hpos
  obtain ⟨hwhole, hfraction⟩ := readDecimal_digits hread
  have hdigits := (isWholePart_iff.mp hwhole).2.1
  rw [utf16Length_of_readDecimal hread, hsign, if_neg Bool.false_ne_true, zero_add] at hlength
  rw [DecimalText.value_of_not_negative hsign]
  by_cases hnil : text.fraction = []
  · refine ⟨text.coefficient, by rw [hnil]; simp, ?_⟩
    rw [if_pos hnil, add_zero] at hlength
    rw [DecimalText.coefficient, hnil, List.append_nil]
    exact (digitsValue_lt hdigits).trans_le (Nat.pow_le_pow_right (by decide) hlength)
  · rw [if_neg hnil] at hlength
    refine ⟨10 ^ text.whole.length, ?_, ?_⟩
    · have hlt : text.coefficient < 10 ^ (text.whole ++ text.fraction).length :=
        digitsValue_lt fun c hc => (List.mem_append.mp hc).elim (hdigits c) (hfraction c)
      rw [div_le_iff₀ (by positivity)]
      rw [List.length_append, pow_add] at hlt
      exact_mod_cast hlt.le
    · exact Nat.pow_lt_pow_right (by decide) (by omega)

theorem positiveDecimal_of_value {text : String}
    (hvalue : decimalValue text = some value) (hpos : 0 < value)
    (hlength : utf16Length text ≤ maxDecimalInputLength) (path : String) :
    ∃ normal parsed, positiveDecimal text path = .ok normal ∧
      parseDecimal normal path = .ok parsed ∧ parsed.value = value := by
  rw [decimalValue, Option.map_eq_some_iff] at hvalue
  obtain ⟨parts, hread, rfl⟩ := hvalue
  have hsign : parts.negative = false := DecimalText.not_negative_of_pos hpos
  obtain ⟨hwhole, hfraction⟩ := readDecimal_digits hread
  obtain ⟨hne, hdigits, -⟩ := isWholePart_iff.mp hwhole
  set scale := (stripZeros parts.fraction).length with hscale
  set coefficient := digitsValue (parts.whole ++ stripZeros parts.fraction) with hcoefficient
  have hparse : parseDecimal text path = .ok ⟨coefficient, scale⟩ := by
    rw [parseDecimal, require_of hlength, hread]
    change Except.ok (⟨if parts.negative then _ else _, _⟩ : ParsedDecimal) = _
    rw [hsign]
    rfl
  have hstripped : (coefficient : ℚ) / 10 ^ scale = parts.value := by
    rw [← DecimalText.eta_of_not_negative hsign, ← value_stripZeros,
      DecimalText.value_of_not_negative rfl]
    rfl
  have hpositive : 0 < coefficient := by
    rw [← hstripped] at hpos
    exact Nat.pos_of_ne_zero fun hzero => by simp [hzero] at hpos
  have hlowest : Lowest coefficient scale := by
    intro hne
    have hmod : (coefficient : ℤ) % 10 ≠ 0 :=
      parseDecimal_lowest hparse (Int.natCast_pos.mpr hpositive) hne
    omega
  have hself : formatDecimal ⟨coefficient, scale⟩ = formatScaled coefficient scale :=
    formatDecimal_eq_formatScaled (Int.natCast_pos.mpr hpositive) fun hne => by
      have hmod := hlowest hne
      change (coefficient : ℤ) % 10 ≠ 0
      omega
  have hshort : utf16Length (formatScaled coefficient scale) ≤ maxDecimalInputLength := by
    obtain ⟨zeros, hzeros⟩ := stripZeros_append parts.fraction
    have hwholeLength : 0 < parts.whole.length := List.length_pos_iff.mpr hne
    have hdigitCount : (numberDigits coefficient).length ≤ parts.whole.length + scale := by
      rw [length_numberDigits_le_iff (by omega), hscale, ← List.length_append]
      refine digitsValue_lt fun c hc => (List.mem_append.mp hc).elim (hdigits c) fun hc => ?_
      apply hfraction c
      rw [hzeros]
      exact List.mem_append_left _ hc
    have hfractionLength : parts.fraction.length = scale + zeros := by
      rw [congrArg List.length hzeros, List.length_append, List.length_replicate]
    rw [utf16Length_of_readDecimal hread, hsign, if_neg Bool.false_ne_true, zero_add] at hlength
    by_cases hzero : scale = 0
    · rw [hzero, utf16Length_formatScaled_zero]
      rw [hzero] at hdigitCount
      omega
    · have hle := utf16Length_formatScaled_le (n := coefficient) hzero
      rw [if_neg (fun hnil => by simp [hnil] at hfractionLength; omega)] at hlength
      omega
  refine ⟨formatScaled coefficient scale, ⟨coefficient, scale⟩, ?_,
    parseDecimal_formatScaled path hpositive hlowest hshort, hstripped⟩
  rw [positiveDecimal, hparse]
  change (do
    require ((0 : ℤ) < coefficient) _
    pure (formatDecimal ⟨coefficient, scale⟩)) = _
  rw [require_of (Int.natCast_pos.mpr hpositive), hself]
  rfl

/-- A parsed price passes the slippage check exactly when the reference is short
enough and the price is no worse than the bound. -/
theorem assertSlippage_iff {input : TradingActionValidationInput} (side : OrderSide)
    {price : String} {aggressive : ParsedDecimal} (hbps : input.controls.slippageBps = some bps)
    (hrange : isSafeInteger bps ∧ 0 ≤ bps ∧ bps ≤ maxSlippageBps)
    (hmarket : input.market.referencePrice = some referencePrice)
    (hreference : decimalValue referencePrice = some reference) (hpos : 0 < reference)
    (hprice : parseDecimal price "intent.price" = .ok aggressive) :
    assertSlippage input side price = .ok () ↔
      utf16Length referencePrice ≤ maxDecimalInputLength ∧
        NoWorse side (slippageBound side bps reference) aggressive.value := by
  by_cases hlength : utf16Length referencePrice ≤ maxDecimalInputLength
  · obtain ⟨normal, parsed, hnormal, hparsed, rfl⟩ :=
      positiveDecimal_of_value hreference hpos hlength "market.referencePrice"
    simp only [assertSlippage, reviewedSlippage, present, hbps, hmarket, Option.elim,
      except_bind_eq_ok, require_eq_ok, pure, Except.pure, Except.ok.injEq, exists_const,
      exists_eq_left', hprice, hnormal, hparsed, hrange, hlength, true_and, insideSlippage_iff]
  · constructor
    · intro h
      simp only [assertSlippage, positiveDecimal, parseDecimal, present, hmarket, Option.elim,
        except_bind_eq_ok, require_eq_ok, Except.ok.injEq, exists_eq_left'] at h
      obtain ⟨-, -, -, -, -, ⟨-, ⟨-, hshort, -⟩, -⟩, -⟩ := h
      exact absurd hshort hlength
    · exact fun h => absurd h.1 hlength

theorem length_derived_le_iff {coefficient : ℕ}
    (hprecision : ValidPrecision precision) (hleast : 0 ≤ bps) (hmost : bps ≤ 500)
    (hreference : decimalValue referencePrice = some reference) (hpos : 0 < reference)
    (hlength : utf16Length referencePrice ≤ maxDecimalInputLength)
    (hvalue : (coefficient : ℚ) / 10 ^ priceScale precision (wholeDigits reference) =
      roundedBound side (priceScale precision (wholeDigits reference))
        (slippageBound side bps reference)) :
    utf16Length (formatScaled coefficient (priceScale precision (wholeDigits reference))) ≤
        maxDecimalInputLength ↔
      (side = .buy → slippageBound side bps reference < 10 ^ maxDecimalInputLength) := by
  obtain ⟨hbound, hdouble, hsell, -⟩ := slippageBound_bounds side hleast hmost hpos
  set scale := priceScale precision (wholeDigits reference) with hscale
  by_cases hzero : scale = 0
  · rw [hzero] at hvalue ⊢
    rw [utf16Length_formatScaled_zero, length_numberDigits_le_iff (by decide)]
    cases side with
    | buy =>
      have hfloor : coefficient = ⌊slippageBound .buy bps reference⌋₊ := by
        simpa [roundedBound, roundDown] using hvalue
      rw [hfloor, Nat.floor_lt hbound.le]
      push_cast
      exact ⟨fun h _ => h, fun h => h rfl⟩
    | sell =>
      refine iff_of_true ?_ fun h => by cases h
      have hceil : coefficient = ⌈slippageBound .sell bps reference⌉₊ := by
        simpa [roundedBound, roundUp] using hvalue
      obtain ⟨n, hn, hsmall⟩ := exists_natCast_of_length hreference hpos hlength
      rw [hceil]
      exact (Nat.ceil_le.mpr ((hsell rfl).trans hn)).trans_lt hsmall
  · -- a price with decimals has at most five whole digits
    obtain ⟨hfigures, -⟩ := hprecision.bounds
    have hone : 1 ≤ wholeDigits reference := le_max_left _ _
    have hwhole : wholeDigits reference ≤ 4 ∧ scale ≤ 4 := by
      simp only [hscale, priceScale, gridScale, hfigures] at hzero ⊢
      omega
    have hpower : (10 : ℚ) ^ (wholeDigits reference + 1) ≤ 10 ^ 5 := by
      rw [← zpow_natCast]
      exact zpow_le_zpow_right₀ (by norm_num) (by omega)
    refine iff_of_true ?_ fun _ => ?_
    · have hcoefficient : coefficient < 10 ^ 10 := by
        have hle := ((roundedBound_le side scale hleast hmost hpos).1).trans
          hpower
        rw [← hvalue, div_le_iff₀ (by positivity)] at hle
        have hscaled : (10 : ℚ) ^ scale ≤ 10 ^ 4 := pow_le_pow_right₀ (by norm_num) hwhole.2
        have hlt : (coefficient : ℚ) < 10 ^ 10 := by
          calc (coefficient : ℚ) ≤ 10 ^ 5 * 10 ^ scale := hle
            _ ≤ 10 ^ 5 * 10 ^ 4 := by gcongr
            _ < 10 ^ 10 := by norm_num
        exact_mod_cast hlt
      have hdigits := (length_numberDigits_le_iff (by decide)).mpr hcoefficient
      have hshort := utf16Length_formatScaled_le (n := coefficient) hzero
      unfold maxDecimalInputLength
      omega
    · have hreferenceLt := lt_zpow_wholeDigits reference
      rw [zpow_add_one₀ (by norm_num : (10 : ℚ) ≠ 0)] at hpower
      calc slippageBound side bps reference ≤ reference * 2 := hdouble
        _ < 10 ^ 5 := by linarith
        _ ≤ 10 ^ maxDecimalInputLength := by
            exact pow_le_pow_right₀ (by norm_num) (by decide)

/-! ### The price of a market order is accepted -/

/-- The normalization accepts the price, and so does the slippage check of what it
returns. -/
def Submittable (input : TradingActionValidationInput) (side : OrderSide) (price : String) : Prop :=
  ∃ normal, normalizePrice price input.market = .ok normal ∧
    assertSlippage input side normal = .ok ()

/-- The texts are not too long for the validator, and the bound of a purchase that
crosses a power of ten keeps no decimal that is not allowed there. -/
def SubmittableBound (precision : PricePrecisionInputs) (referencePrice : String)
    (side : OrderSide) (reference bound : ℚ) : Prop :=
  utf16Length referencePrice ≤ maxDecimalInputLength ∧
    (side = .buy → bound < 10 ^ maxDecimalInputLength) ∧
    KeepsPrecision precision side reference bound

/-- **A derived price is accepted** if and only if its bound keeps the precision of
the reference's magnitude. -/
theorem derived_price_submittable_iff {input : TradingActionValidationInput} {side : OrderSide}
    {price referencePrice : String} {bps : ℤ} {precision : PricePrecisionInputs}
    (hprecision : ValidPrecision precision) (hmarket : input.market.pricePrecision = some precision)
    (hreferencePrice : input.market.referencePrice = some referencePrice)
    (hbps : input.controls.slippageBps = some bps)
    (h : aggressiveOrderPrice referencePrice side bps precision = .ok price) :
    ∃ reference, decimalValue referencePrice = some reference ∧
      (Submittable input side price ↔ SubmittableBound precision referencePrice side reference
          (slippageBound side bps reference)) := by
  obtain ⟨reference, coefficient, scale, hreference, hrange, hpos, rfl, hcoefficient, rfl,
    hvalue⟩ := aggressiveOrderPrice_spec hprecision h
  change (coefficient : ℚ) / 10 ^ priceScale precision (wholeDigits reference) =
    roundedBound side (priceScale precision (wholeDigits reference)) _ at hvalue
  refine ⟨reference, hreference, ?_⟩
  change Submittable input side
    (formatScaled coefficient (priceScale precision (wholeDigits reference))) ↔ _
  set scale := priceScale precision (wholeDigits reference) with hscale
  have hpositive : 0 < roundedBound side scale (slippageBound side bps reference) := by
    rw [← hvalue]
    positivity
  have hnormal := normalizePrice_formatScaled hcoefficient scale hprecision hmarket
  have hvalid := validPrice_iff hprecision hrange.2.1 hrange.2.2 hpos hpositive
  rw [← hscale, ← hvalue] at hvalid
  by_cases hlength : utf16Length (formatScaled coefficient scale) ≤ maxDecimalInputLength
  · obtain ⟨m, s, hlowest, hm, -, -, hformat⟩ := exists_lowest hcoefficient scale
    have hparse := parseDecimal_formatScaled "intent.price" hm hlowest (hformat ▸ hlength)
    rw [← hformat] at hparse
    have hslippage := assertSlippage_iff side hbps hrange hreferencePrice hreference
      hpos hparse
    have hworse : NoWorse side (slippageBound side bps reference)
        (⟨m, s⟩ : ParsedDecimal).value := by
      have hsame : (⟨m, s⟩ : ParsedDecimal).value =
          roundedBound side scale (slippageBound side bps reference) := by
        have htext := (formatScaled_value coefficient scale).symm.trans
          (hformat ▸ formatScaled_value m s)
        rw [← hvalue, Option.some.inj htext]
        rfl
      have hbound := (slippageBound_bounds side hrange.2.1 hrange.2.2 hpos).1
      rw [hsame]
      cases side with
      | buy => exact roundDown_le (by decide) hbound.le
      | sell => exact le_roundUp (by decide)
    constructor
    · rintro ⟨normal, haccepted, hchecked⟩
      obtain ⟨rfl, -, hprice⟩ := (hnormal normal).mp haccepted
      have hshort := (hslippage.mp hchecked).1
      exact ⟨hshort, (length_derived_le_iff hprecision hrange.2.1 hrange.2.2 hreference hpos
        hshort hvalue).mp hlength, hvalid.mp hprice⟩
    · rintro ⟨hshort, -, hkeeps⟩
      exact ⟨_, (hnormal _).mpr ⟨rfl, hlength, hvalid.mpr hkeeps⟩, hslippage.mpr ⟨hshort, hworse⟩⟩
  · constructor
    · rintro ⟨normal, haccepted, -⟩
      exact absurd ((hnormal normal).mp haccepted).2.1 hlength
    · rintro ⟨hshort, hbelow, -⟩
      exact absurd ((length_derived_le_iff hprecision hrange.2.1 hrange.2.2 hreference hpos
        hshort hvalue).mpr hbelow) hlength

def crossingInput : TradingActionValidationInput :=
  { limitInput with
    market :=
      { limitInput.market with
        sizeDecimals := some 2
        pricePrecision := some ⟨5, 4⟩
        referencePrice := some "9.9999" }
    controls := { slippageBps := some 500, trigger := none } }

theorem crossingPrecision_valid : ValidPrecision ⟨5, 4⟩ :=
  ⟨.perp, 2, ⟨5, 4⟩, rfl, by decide⟩

theorem derived_price_submittable_crossing :
    ∃ reference, decimalValue "9.9999" = some reference ∧
      (Submittable crossingInput .buy "10.4998" ↔
        SubmittableBound ⟨5, 4⟩ "9.9999" .buy reference (slippageBound .buy 500 reference)) :=
  derived_price_submittable_iff crossingPrecision_valid rfl rfl rfl (by decide)

/-- The price derived for it has six significant figures. -/
theorem crossing_price_refused :
    ¬ ∀ (input : TradingActionValidationInput) (side : OrderSide) (price referencePrice : String)
        (bps : ℤ) (precision : PricePrecisionInputs), ValidPrecision precision →
        input.market.pricePrecision = some precision →
        input.market.referencePrice = some referencePrice →
        input.controls.slippageBps = some bps →
        aggressiveOrderPrice referencePrice side bps precision = .ok price →
        Submittable input side price := by
  intro hall
  obtain ⟨normal, hnormal, -⟩ := hall crossingInput .buy "10.4998" "9.9999" 500 ⟨5, 4⟩
    crossingPrecision_valid rfl rfl rfl (by decide)
  have hrefused : normalizePrice "10.4998" crossingInput.market =
      .error (.validation "intent.price" "price exceeds the current significant-figure limit") := by
    decide
  rw [hrefused] at hnormal
  cases hnormal

/-! ### The price of a market order is tight -/

/-- The price is the market's nearest one inside the bound; so it is no worse than
the reference where any price of the market lies between the two. -/
def TightPrice (precision : PricePrecisionInputs) (side : OrderSide)
    (reference bound value : ℚ) : Prop :=
  match side with
  | .buy =>
    IsGreatest {x | ValidPrice precision x ∧ x ≤ bound} value ∧
      ((∃ x, ValidPrice precision x ∧ reference ≤ x ∧ x ≤ bound) → reference ≤ value)
  | .sell =>
    IsLeast {x | ValidPrice precision x ∧ bound ≤ x} value ∧
      ((∃ x, ValidPrice precision x ∧ bound ≤ x ∧ x ≤ reference) → value ≤ reference)

/-- The scale of the bound's own magnitude and the one taken from the reference
round the bound to the same value: it is less than one finer unit from a
multiple of the coarser unit. -/
def SameRounding (precision : PricePrecisionInputs) (side : OrderSide)
    (reference bound : ℚ) : Prop :=
  let own := priceScale precision (magnitude 10 bound)
  let taken := priceScale precision (wholeDigits reference)
  NearCoarser side (min own taken) (max own taken) bound

theorem sameRounding_iff (hbound : 0 < bound) :
    SameRounding precision side reference bound ↔
      roundedBound side (priceScale precision (wholeDigits reference)) bound =
        roundedBound side (priceScale precision (magnitude 10 bound)) bound := by
  unfold SameRounding
  dsimp only
  rw [← roundedBound_eq_iff side min_le_max hbound]
  rcases le_total (priceScale precision (magnitude 10 bound))
    (priceScale precision (wholeDigits reference)) with hle | hle
  · rw [min_eq_left hle, max_eq_right hle, eq_comm]
  · rw [min_eq_right hle, max_eq_left hle]

theorem tightPrice_iff (hprecision : ValidPrecision precision) (hbound : 0 < bound)
    (hvalue : 0 < value) :
    TightPrice precision side reference bound value ↔
      value = roundedBound side (priceScale precision (magnitude 10 bound)) bound := by
  have hfigures : 0 < precision.maxSignificantFigures.toNat := by
    rw [hprecision.bounds.1]
    decide
  cases side with
  | buy =>
    have hgreatest : IsGreatest {x | ValidPrice precision x ∧ x ≤ bound} value ↔
        value = roundDown 10 _ bound := isGreatest_iff (by decide) hfigures hbound hvalue
    exact ⟨fun h => hgreatest.mp h.1, fun h => ⟨hgreatest.mpr h, fun ⟨x, hvalid, hge, hle⟩ =>
      hge.trans ((hgreatest.mpr h).2 ⟨hvalid, hle⟩)⟩⟩
  | sell =>
    have hleast : IsLeast {x | ValidPrice precision x ∧ bound ≤ x} value ↔
        value = roundUp 10 _ bound := isLeast_iff (by decide) hfigures hbound
    exact ⟨fun h => hleast.mp h.1, fun h => ⟨hleast.mpr h, fun ⟨x, hvalid, hge, hle⟩ =>
      ((hleast.mpr h).2 ⟨hvalid, hge⟩).trans hle⟩⟩

/-- **A derived price is tight** if and only if the magnitude of the reference
rounds the bound as the bound's own magnitude does. -/
theorem derived_price_tight_iff {referencePrice price : String} {side : OrderSide} {bps : ℤ}
    {precision : PricePrecisionInputs} (hprecision : ValidPrecision precision)
    (h : aggressiveOrderPrice referencePrice side bps precision = .ok price) :
    ∃ reference value, decimalValue referencePrice = some reference ∧
      decimalValue price = some value ∧
      (TightPrice precision side reference (slippageBound side bps reference) value ↔
        SameRounding precision side reference (slippageBound side bps reference)) := by
  obtain ⟨reference, coefficient, scale, hreference, hrange, hpos, rfl, hcoefficient, rfl,
    hvalue⟩ := aggressiveOrderPrice_spec hprecision h
  have hbound := (slippageBound_bounds side hrange.2.1 hrange.2.2 hpos).1
  refine ⟨reference, _, hreference, formatScaled_value _ _, ?_⟩
  rw [tightPrice_iff hprecision hbound (by positivity), sameRounding_iff hbound, hvalue]
  rfl

theorem derived_price_tight_small :
    ∃ reference value, decimalValue "0.012345" = some reference ∧
      decimalValue "0.0123" = some value ∧
      (TightPrice ⟨5, 6⟩ .buy reference (slippageBound .buy 0 reference) value ↔
        SameRounding ⟨5, 6⟩ .buy reference (slippageBound .buy 0 reference)) :=
  derived_price_tight_iff ⟨.perp, 0, ⟨5, 6⟩, rfl, by decide⟩ (by decide)

/-- A purchase at a reference below one is priced below the reference, which is
itself a price of the market. -/
theorem small_price_not_tight :
    ¬ ∀ (referencePrice price : String) (side : OrderSide) (bps : ℤ)
        (precision : PricePrecisionInputs) (reference value : ℚ), ValidPrecision precision →
        aggressiveOrderPrice referencePrice side bps precision = .ok price →
        decimalValue referencePrice = some reference → decimalValue price = some value →
        TightPrice precision side reference (slippageBound side bps reference) value := by
  intro hall
  have htight := hall "0.012345" "0.0123" .buy 0 ⟨5, 6⟩ (12345 / 1000000) (123 / 10000)
    ⟨.perp, 0, ⟨5, 6⟩, rfl, by decide⟩ (by decide +kernel) (by decide +kernel) (by decide +kernel)
  have hvalid : ValidPrice ⟨5, 6⟩ (12345 / 1000000) :=
    ⟨by norm_num, 12345, 6, by norm_num, by decide, .inr (by decide)⟩
  have hbound : slippageBound .buy 0 (12345 / 1000000) = 12345 / 1000000 := by
    norm_num [slippageBound, slippageFactor]
  have hle := htight.1.2 ⟨hvalid, hbound.ge⟩
  norm_num at hle

end HyperTrader
