import HyperTrader.Actions.DerivedPrices
import HyperTrader.Actions.Terms
import HyperTrader.Actions.Values

/-!
# What an accepted action may do

The validator compares decimals by their digits. Read as exact values, what it accepts is
funded at the requested leverage, stays within the reviewed slippage, and, where it is to
reduce a position, neither increases nor reverses it.
-/

namespace HyperTrader

open Library

structure Normalized (raw normal : String) (value : ℚ) : Prop where
  positive : 0 < value
  ofRaw : decimalValue raw = some value
  ofNormal : decimalValue normal = some value

def requestedLeverage (input : TradingActionValidationInput) : Option ℤ :=
  if input.market.family = .spot then some 1 else input.account.leverage

/-- The notional is at least the market's minimum, and its margin at the requested leverage
is available. -/
structure Funded (input : TradingActionValidationInput) (notional : ℚ) : Prop where
  minimum : ∀ text ∈ input.market.minimumNotional, ∃ least, decimalValue text = some least ∧
    least ≤ notional
  margin : ∃ leverage available, requestedLeverage input = some leverage ∧ 1 ≤ leverage ∧
    decimalValue input.account.availableMargin = some available ∧
    notional / leverage ≤ available

def KeepsSlippage (controls : ActionControls) (side : OrderSide) (base price : ℚ) : Prop :=
  ∃ bps, controls.slippageBps = some bps ∧ 0 ≤ bps ∧ bps ≤ maxSlippageBps ∧
    NoWorse side (slippageBound side bps base) price

def IsReference (market : ActionMarketRules) (reference : ℚ) : Prop :=
  0 < reference ∧ market.referencePrice.bind decimalValue = some reference

def IsPosition (account : ActionAccountRules) (position : ℚ) : Prop :=
  decimalValue (account.positionSize.getD "0") = some position

def filled (side : OrderSide) (size : ℚ) : ℚ :=
  match side with
  | .buy => size
  | .sell => -size

/-- Filled, the order leaves a smaller position on the same side, or none. -/
structure Reduces (position : ℚ) (side : OrderSide) (size : ℚ) : Prop where
  smaller : |position + filled side size| < |position|
  sameSide : 0 ≤ position * (position + filled side size)

structure Closes (position : ℚ) (side : OrderSide) (size : ℚ) : Prop where
  exact : size = |position|
  nothingLeft : position + filled side size = 0

/-- The trigger of a protective order is on the side of the reference that the position's
direction asks for. -/
def TriggerSide (position : ℚ) (kind : PositionTpslKind) (reference trigger : ℚ) : Prop :=
  match kind with
  | .takeProfit => (0 < position → reference < trigger) ∧ (position < 0 → trigger < reference)
  | .stopLoss => (0 < position → trigger < reference) ∧ (position < 0 → reference < trigger)

structure SoundMarketOrder (input : TradingActionValidationInput)
    (intent normal : MarketOrderIntent) (size price : ℚ) : Prop where
  side : normal.side = intent.side
  sizeText : Normalized intent.size normal.size size
  priceText : Normalized intent.aggressiveLimitPrice normal.aggressiveLimitPrice price
  funded : Funded input (size * price)
  slippage : ∃ reference, IsReference input.market reference ∧
    KeepsSlippage input.controls intent.side reference price

structure SoundLimitOrder (input : TradingActionValidationInput)
    (intent normal : LimitOrderIntent) (size price : ℚ) : Prop where
  side : normal.side = intent.side ∧ normal.reduceOnly = intent.reduceOnly
  sizeText : Normalized intent.size normal.size size
  priceText : Normalized intent.limitPrice normal.limitPrice price
  funded : intent.reduceOnly = false → Funded input (size * price)
  reduces : intent.reduceOnly = true → ∃ position, IsPosition input.account position ∧
    Reduces position intent.side size

structure SoundClose (input : TradingActionValidationInput)
    (intent normal : ReduceOnlyCloseIntent) (size price : ℚ) : Prop where
  side : normal.side = intent.side
  sizeText : Normalized intent.size normal.size size
  priceText : Normalized intent.aggressiveLimitPrice normal.aggressiveLimitPrice price
  slippage : ∃ reference, IsReference input.market reference ∧
    KeepsSlippage input.controls intent.side reference price
  closes : ∃ position, IsPosition input.account position ∧
    Reduces position intent.side size ∧ Closes position intent.side size

structure SoundTpsl (input : TradingActionValidationInput) (intent normal : PositionTpslIntent)
    (size trigger price : ℚ) : Prop where
  side : normal.side = intent.side ∧ normal.triggerKind = intent.triggerKind
  sizeText : Normalized intent.size normal.size size
  triggerText : Normalized intent.triggerPrice normal.triggerPrice trigger
  priceText : Normalized intent.aggressiveLimitPrice normal.aggressiveLimitPrice price
  slippage : KeepsSlippage input.controls intent.side trigger price
  closes : ∃ position reference, IsPosition input.account position ∧
    IsReference input.market reference ∧ Reduces position intent.side size ∧
    Closes position intent.side size ∧
    TriggerSide position intent.triggerKind reference trigger

def SoundAction (input : TradingActionValidationInput) (normal : TradingActionIntent) : Prop :=
  match input.intent with
  | .marketOrder intent => ∃ order size price, normal = .marketOrder order ∧
      SoundMarketOrder input intent order size price
  | .limitOrder intent => ∃ order size price, normal = .limitOrder order ∧
      SoundLimitOrder input intent order size price
  | .reduceOnlyClose intent => ∃ order size price, normal = .reduceOnlyClose order ∧
      SoundClose input intent order size price
  | .positionTpsl intent => ∃ order size trigger price, normal = .positionTpsl order ∧
      SoundTpsl input intent order size trigger price
  | .cancel _ => True
  | .updateLeverage _ => True
  | .bulkCancel _ => False

/-! ### The parts of the validation -/

variable {input : TradingActionValidationInput} {side : OrderSide} {u : Unit}
  {raw normal path price text : String} {market : ActionMarketRules} {value position size : ℚ}
  {notional : ParsedDecimal}

theorem normalizeSize_normalized
    (h : normalizeSize raw market = .ok normal) : ∃ value, Normalized raw normal value := by
  obtain ⟨value, hpositive, hraw, hnormal⟩ := normalizeSize_value h
  exact ⟨value, hpositive, hraw, hnormal⟩

theorem normalizePrice_normalized
    (h : normalizePrice raw market = .ok normal) : ∃ value, Normalized raw normal value := by
  obtain ⟨value, hpositive, hraw, hnormal⟩ := normalizePrice_value h
  exact ⟨value, hpositive, hraw, hnormal⟩

theorem Normalized.parsed {parsed : ParsedDecimal}
    (h : Normalized raw normal value) (hparsed : parseDecimal normal path = .ok parsed) :
    parsed.value = value :=
  Option.some.inj ((parseDecimal_value hparsed).symm.trans h.ofNormal)

theorem normalizedTerms_normalized {assetId : ℤ} {rawSize rawPrice size : String}
    (h : normalizedTerms input assetId rawSize rawPrice = .ok (size, price, notional)) :
    ∃ sizeValue priceValue, Normalized rawSize size sizeValue ∧
      Normalized rawPrice price priceValue ∧ notional.value = sizeValue * priceValue := by
  simp only [normalizedTerms, except_bind_eq_ok] at h
  obtain ⟨_, -, _, -, _, -, _, hsize, _, hprice, parsedSize, hparsedSize, parsedPrice,
    hparsedPrice, hresult⟩ := h
  cases hresult
  obtain ⟨sizeValue, hsizeValue⟩ := normalizeSize_normalized hsize
  obtain ⟨priceValue, hpriceValue⟩ := normalizePrice_normalized hprice
  refine ⟨sizeValue, priceValue, hsizeValue, hpriceValue, ?_⟩
  rw [multiplyDecimal_value, hsizeValue.parsed hparsedSize, hpriceValue.parsed hparsedPrice]

theorem reviewedSlippage_eq_ok {controls : ActionControls} {bps : ℤ} :
    reviewedSlippage controls = .ok bps ↔
      controls.slippageBps = some bps ∧ isSafeInteger bps ∧ 0 ≤ bps ∧ bps ≤ maxSlippageBps := by
  cases hbps : controls.slippageBps with
  | none => simp [reviewedSlippage, present, invalid, hbps]
  | some found =>
    simp only [reviewedSlippage, present, hbps, Option.elim, except_bind_eq_ok,
      require_eq_ok, pure, Except.pure, Except.ok.injEq, exists_eq_left', exists_const,
      Option.some.injEq]
    constructor
    · rintro ⟨hrange, rfl⟩
      exact ⟨rfl, hrange⟩
    · rintro ⟨rfl, hrange⟩
      exact ⟨hrange, rfl⟩

theorem isReference_of_positive {positive : String} {parsed : ParsedDecimal}
    {message path' path'' : String}
    (htext : present input.market.referencePrice path message = .ok text)
    (hpositive : positiveDecimal text path' = .ok positive)
    (hparsed : parseDecimal positive path'' = .ok parsed) :
    IsReference input.market parsed.value := by
  obtain ⟨exact, hexact, hraw, hnormal⟩ := positiveDecimal_value hpositive
  rw [Option.some.inj ((parseDecimal_value hparsed).symm.trans hnormal)]
  refine ⟨hexact, ?_⟩
  rw [present_eq_ok.mp htext]
  exact hraw

theorem assertSlippage_keeps
    (h : assertSlippage input side price = .ok u) (hprice : Normalized raw price value) :
    ∃ reference, IsReference input.market reference ∧
      KeepsSlippage input.controls side reference value := by
  simp only [assertSlippage, except_bind_eq_ok, reviewedSlippage_eq_ok, require_eq_ok] at h
  obtain ⟨bps, ⟨hbps, -, hleast, hmost⟩, text, htext, aggressive, haggressive, positive,
    hpositive, reference, hreference, hinside⟩ := h
  rw [insideSlippage_iff, hprice.parsed haggressive] at hinside
  exact ⟨reference.value, isReference_of_positive htext hpositive hreference, bps, hbps, hleast,
    hmost, hinside⟩

theorem reduces_of_le (hposition : position ≠ 0) (hsize : 0 < size)
    (hside : side = if 0 < position then .sell else .buy) (hle : size ≤ |position|) :
    Reduces position side size := by
  rcases hposition.lt_or_gt with hshort | hlong
  · rw [if_neg hshort.not_gt] at hside
    subst hside
    rw [abs_of_neg hshort] at hle
    have hleft : position + size ≤ 0 := by linarith
    refine ⟨?_, mul_nonneg_of_nonpos_of_nonpos hshort.le hleft⟩
    change |position + size| < |position|
    rw [abs_of_nonpos hleft, abs_of_neg hshort]
    linarith
  · rw [if_pos hlong] at hside
    subst hside
    rw [abs_of_pos hlong] at hle
    have hleft : 0 ≤ position + -size := by linarith
    refine ⟨?_, mul_nonneg hlong.le hleft⟩
    change |position + -size| < |position|
    rw [abs_of_nonneg hleft, abs_of_pos hlong]
    linarith

theorem closes_of_eq (hposition : position ≠ 0)
    (hside : side = if 0 < position then .sell else .buy) (heq : size = |position|) :
    Closes position side size := by
  refine ⟨heq, ?_⟩
  rcases hposition.lt_or_gt with hshort | hlong
  · rw [if_neg hshort.not_gt] at hside
    rw [hside, heq, abs_of_neg hshort]
    exact add_neg_cancel position
  · rw [if_pos hlong] at hside
    rw [hside, heq, abs_of_pos hlong]
    exact add_neg_cancel position

theorem ParsedDecimal.value_eq_zero_iff {parsed : ParsedDecimal} :
    parsed.value = 0 ↔ parsed.coefficient = 0 := by
  unfold ParsedDecimal.value
  rw [div_eq_zero_iff, Int.cast_eq_zero]
  exact or_iff_left (by positivity)

theorem assertReduceOnly_reduces {size : String} {full : Bool}
    (h : assertReduceOnly input side size full = .ok u) (hsize : Normalized raw size value) :
    ∃ position, IsPosition input.account position ∧ position ≠ 0 ∧
      (side = if 0 < position then .sell else .buy) ∧ Reduces position side value ∧
      (full = true → Closes position side value) := by
  simp only [assertReduceOnly, except_bind_eq_ok, require_eq_ok] at h
  obtain ⟨_, -, position, hposition, _, hnonzero, _, hside, requested, hrequested, hnotMore,
    hfull⟩ := h
  rw [compareDecimal_eq, position.abs_value, hsize.parsed hrequested] at hnotMore hfull
  have hvalue : position.value ≠ 0 := fun hzero =>
    hnonzero (ParsedDecimal.value_eq_zero_iff.mp hzero)
  have hle : value ≤ |position.value| := by
    rwa [Ne, compare_gt_iff_gt, not_lt] at hnotMore
  have hside' : side = if 0 < position.value then .sell else .buy := by
    simp only [hside, ParsedDecimal.value_pos_iff]
  refine ⟨position.value, parseDecimal_value hposition, hvalue, hside',
    reduces_of_le hvalue hsize.positive hside' hle, fun hclose => ?_⟩
  exact closes_of_eq hvalue hside' (compare_eq_iff_eq.mp (hfull hclose))

theorem assertMinimumNotional_le (h : assertMinimumNotional market notional = .ok u) :
    ∀ text ∈ market.minimumNotional, ∃ least, decimalValue text = some least ∧
      least ≤ notional.value := by
  intro text htext
  unfold assertMinimumNotional at h
  rw [Option.mem_def.mp htext] at h
  simp only [except_bind_eq_ok, require_eq_ok] at h
  obtain ⟨positive, hpositive, parsed, hparsed, hnotLess⟩ := h
  obtain ⟨least, -, hraw, hnormal⟩ := positiveDecimal_value hpositive
  have hvalue : parsed.value = least :=
    Option.some.inj ((parseDecimal_value hparsed).symm.trans hnormal)
  rw [compareDecimal_eq, Ne, compare_lt_iff_lt, not_lt, hvalue] at hnotLess
  exact ⟨least, hraw, hnotLess⟩

theorem assertMargin_funded (hpositive : 0 < notional.value)
    (h : assertMargin input notional false = .ok u) : Funded input notional.value := by
  simp only [assertMargin, Bool.false_eq_true, if_false, except_bind_eq_ok, require_eq_ok] at h
  obtain ⟨_, hminimum, leverage, hleverage, _, ⟨-, hone⟩, _, -, _, -, _, -, normal, hnormal,
    available, havailable, hnotMore⟩ := h
  have hleverageValue : requestedLeverage input = some leverage := by
    unfold requestedLeverage
    exact present_eq_ok.mp hleverage
  have hscale : (ParsedDecimal.mk leverage 0).value = leverage := by
    simp [ParsedDecimal.value]
  rw [compareDecimal_eq, multiplyDecimal_value, hscale, Ne, compare_gt_iff_gt, not_lt]
    at hnotMore
  have hpos : (0 : ℚ) < leverage := by exact_mod_cast (by omega : 0 < leverage)
  have havailablePos : 0 < available.value := by
    by_contra hnone
    have hle := mul_nonpos_of_nonpos_of_nonneg (not_lt.mp hnone) hpos.le
    linarith
  refine ⟨assertMinimumNotional_le hminimum, leverage, available.value, hleverageValue, hone,
    normalizeDecimal_value hnormal havailable havailablePos, ?_⟩
  rwa [div_le_iff₀ hpos]

/-! ### What the margin check asks for -/

structure AdmittedLeverage (input : TradingActionValidationInput) (leverage : ℤ) : Prop where
  requested : requestedLeverage input = some leverage
  range : isSafeInteger leverage ∧ 1 ≤ leverage
  most : ∃ maxLeverage,
    (if input.market.family = .spot then some 1 else input.market.maxLeverage) =
      some maxLeverage ∧ isSafeInteger maxLeverage ∧ leverage ≤ maxLeverage
  isolated : input.market.onlyIsolated = some true → input.account.marginMode = some .isolated

theorem normalizeDecimal_of_value (hvalue : decimalValue text = some value) (hnonneg : 0 ≤ value)
    (hlength : utf16Length text ≤ maxDecimalInputLength) (path : String) :
    ∃ normal parsed, normalizeDecimal text path = .ok normal ∧
      parseDecimal normal path = .ok parsed ∧ parsed.value = value := by
  rcases hnonneg.lt_or_eq with hpositive | hzero
  · obtain ⟨normal, parsed, hnormal, hparsed, hsame⟩ :=
      positiveDecimal_of_value hvalue hpositive hlength path
    simp only [positiveDecimal, except_bind_eq_ok] at hnormal
    obtain ⟨first, hfirst, -, -, hresult⟩ := hnormal
    refine ⟨normal, parsed, ?_, hparsed, hsame⟩
    rw [normalizeDecimal, hfirst]
    exact hresult
  · obtain ⟨parts, hread, -⟩ := Option.map_eq_some_iff.mp hvalue
    obtain ⟨first, hfirst⟩ : ∃ first, parseDecimal text path = .ok first :=
      ⟨_, parseDecimal_eq_ok.mpr ⟨hlength, parts, hread, rfl⟩⟩
    have hcoefficient : first.coefficient = 0 := by
      rw [← ParsedDecimal.value_eq_zero_iff, hzero]
      exact Option.some.inj ((parseDecimal_value hfirst).symm.trans hvalue)
    have hread : readDecimal "0" = some ⟨false, ['0'], []⟩ := by decide
    refine ⟨"0", ⟨0, 0⟩, ?_, ?_, ?_⟩
    · rw [normalizeDecimal, hfirst]
      change Except.ok (formatDecimal first) = _
      rw [formatDecimal, if_pos hcoefficient]
    · exact parseDecimal_eq_ok.mpr ⟨by decide, _, hread, by decide⟩
    · rw [← hzero]
      simp [ParsedDecimal.value]

theorem assertMargin_iff {available : ℚ}
    (hvalue : decimalValue input.account.availableMargin = some available) (hnonneg : 0 ≤ available)
    (hminimum : assertMinimumNotional input.market notional = .ok ()) :
    assertMargin input notional false = .ok () ↔
      utf16Length input.account.availableMargin ≤ maxDecimalInputLength ∧
        ∃ leverage, AdmittedLeverage input leverage ∧ notional.value ≤ available * leverage := by
  have hscale : ∀ leverage : ℤ, (ParsedDecimal.mk leverage 0).value = leverage := fun leverage => by
    simp [ParsedDecimal.value]
  simp only [assertMargin, Bool.false_eq_true, if_false, except_bind_eq_ok, require_eq_ok,
    present_eq_ok, hminimum]
  constructor
  · rintro ⟨_, -, leverage, hrequested, _, hrange, maxLeverage, hmax, _, hmost, _, hisolated,
      normal, hnormal, parsed, hparsed, hnotMore⟩
    have hlength : utf16Length input.account.availableMargin ≤ maxDecimalInputLength := by
      simp only [normalizeDecimal, except_bind_eq_ok] at hnormal
      obtain ⟨first, hfirst, -⟩ := hnormal
      exact (parseDecimal_eq_ok.mp hfirst).1
    obtain ⟨normal', parsed', hnormal', hparsed', hsame⟩ :=
      normalizeDecimal_of_value hvalue hnonneg hlength "account.availableMargin"
    rw [hnormal] at hnormal'
    cases hnormal'
    rw [hparsed] at hparsed'
    cases hparsed'
    rw [compareDecimal_eq, multiplyDecimal_value, hscale, hsame, Ne, compare_gt_iff_gt, not_lt]
      at hnotMore
    exact ⟨hlength, leverage, ⟨hrequested, hrange, ⟨maxLeverage, hmax, hmost⟩, hisolated⟩, hnotMore⟩
  · rintro ⟨hlength, leverage, ⟨hrequested, hrange, ⟨maxLeverage, hmax, hmost⟩, hisolated⟩, hle⟩
    obtain ⟨normal, parsed, hnormal, hparsed, hsame⟩ :=
      normalizeDecimal_of_value hvalue hnonneg hlength "account.availableMargin"
    refine ⟨(), trivial, leverage, hrequested, (), hrange, maxLeverage, hmax, (), hmost, (),
      hisolated, normal, hnormal, parsed, hparsed, ?_⟩
    rwa [compareDecimal_eq, multiplyDecimal_value, hscale, hsame, Ne, compare_gt_iff_gt, not_lt]

/-! ### The orders -/

theorem Normalized.notional_pos {raw' normal' : String} {price : ℚ}
    (hsize : Normalized raw normal size) (hprice : Normalized raw' normal' price) :
    0 < size * price :=
  mul_pos hsize.positive hprice.positive

variable {validated : ValidatedTradingAction}

theorem validateMarketOrder_sound {intent : MarketOrderIntent}
    (h : validateMarketOrder input intent = .ok validated) :
    ∃ order size price, validated.intent = .marketOrder order ∧
      SoundMarketOrder input intent order size price := by
  simp only [validateMarketOrder, except_bind_eq_ok] at h
  obtain ⟨⟨size, price, notional⟩, hterms, _, hslippage, _, hmargin, cloid, -, hvalidated⟩ := h
  obtain ⟨sizeValue, priceValue, hsize, hprice, hnotional⟩ := normalizedTerms_normalized hterms
  have hpositive := hsize.notional_pos hprice
  rw [← hnotional] at hpositive
  refine ⟨_, sizeValue, priceValue, validatedAction_intent hvalidated, rfl, hsize, hprice, ?_,
    assertSlippage_keeps hslippage hprice⟩
  rw [← hnotional]
  exact assertMargin_funded hpositive hmargin

theorem validateLimitOrder_sound {intent : LimitOrderIntent}
    (h : validateLimitOrder input intent = .ok validated) :
    ∃ order size price, validated.intent = .limitOrder order ∧
      SoundLimitOrder input intent order size price := by
  simp only [validateLimitOrder, except_bind_eq_ok] at h
  obtain ⟨⟨size, price, notional⟩, hterms, _, -, h⟩ := h
  obtain ⟨sizeValue, priceValue, hsize, hprice, hnotional⟩ := normalizedTerms_normalized hterms
  have hpositive := hsize.notional_pos hprice
  rw [← hnotional] at hpositive
  cases hreduce : intent.reduceOnly with
  | true =>
    simp only [hreduce, if_true, except_bind_eq_ok] at h
    obtain ⟨_, hassert, _, -, cloid, -, hvalidated⟩ := h
    obtain ⟨position, hposition, -, -, hreduces, -⟩ := assertReduceOnly_reduces hassert hsize
    exact ⟨_, sizeValue, priceValue, validatedAction_intent hvalidated, ⟨rfl, hreduce.symm⟩,
      hsize, hprice, fun hno => by simp [hreduce] at hno,
      fun _ => ⟨position, hposition, hreduces⟩⟩
  | false =>
    simp only [hreduce, Bool.false_eq_true, if_false, except_bind_eq_ok] at h
    obtain ⟨_, hmargin, cloid, -, hvalidated⟩ := h
    refine ⟨_, sizeValue, priceValue, validatedAction_intent hvalidated, ⟨rfl, hreduce.symm⟩,
      hsize, hprice, fun _ => ?_, fun hyes => by simp [hreduce] at hyes⟩
    rw [← hnotional]
    exact assertMargin_funded hpositive hmargin

theorem validateReduceOnlyClose_sound {intent : ReduceOnlyCloseIntent}
    (h : validateReduceOnlyClose input intent = .ok validated) :
    ∃ order size price, validated.intent = .reduceOnlyClose order ∧
      SoundClose input intent order size price := by
  simp only [validateReduceOnlyClose, except_bind_eq_ok] at h
  obtain ⟨⟨size, price, notional⟩, hterms, _, hslippage, _, hassert, _, -, cloid, -,
    hvalidated⟩ := h
  obtain ⟨sizeValue, priceValue, hsize, hprice, -⟩ := normalizedTerms_normalized hterms
  obtain ⟨position, hposition, -, -, hreduces, hcloses⟩ := assertReduceOnly_reduces hassert hsize
  exact ⟨_, sizeValue, priceValue, validatedAction_intent hvalidated, rfl, hsize, hprice,
    assertSlippage_keeps hslippage hprice, position, hposition, hreduces, hcloses rfl⟩

theorem triggerSide_of_direction {reference trigger : ℚ} {kind : PositionTpslKind}
    (hside : side = if 0 < position then .sell else .buy) (h : compare trigger reference =
      match expectedDirection side kind with
      | .above => .gt
      | .below => .lt) : TriggerSide position kind reference trigger := by
  by_cases hlong : 0 < position
  · rw [if_pos hlong] at hside
    subst hside
    cases kind with
    | takeProfit =>
      exact ⟨fun _ => compare_gt_iff_gt.mp h, fun hshort => absurd hlong hshort.not_gt⟩
    | stopLoss =>
      exact ⟨fun _ => compare_lt_iff_lt.mp h, fun hshort => absurd hlong hshort.not_gt⟩
  · rw [if_neg hlong] at hside
    subst hside
    cases kind with
    | takeProfit => exact ⟨fun h' => absurd h' hlong, fun _ => compare_lt_iff_lt.mp h⟩
    | stopLoss => exact ⟨fun h' => absurd h' hlong, fun _ => compare_gt_iff_gt.mp h⟩

theorem validatePositionTpsl_sound {intent : PositionTpslIntent}
    (h : validatePositionTpsl input intent = .ok validated) :
    ∃ order size trigger price, validated.intent = .positionTpsl order ∧
      SoundTpsl input intent order size trigger price := by
  simp only [validatePositionTpsl, except_bind_eq_ok, require_eq_ok, reviewedSlippage_eq_ok] at h
  obtain ⟨_, -, _, -, _, -, size, hsize, triggerPrice, htrigger, aggressive, haggressive, _,
    hassert, _, -, reference, hreference, parsedTrigger, hparsedTrigger, _, hdirection, bps,
    ⟨hbps, -, hleast, hmost⟩, parsedAggressive, hparsedAggressive, _, hinside, _, -, cloid, -, _,
    -, hvalidated⟩ := h
  obtain ⟨sizeValue, hsize⟩ := normalizeSize_normalized hsize
  obtain ⟨triggerValue, htrigger⟩ := normalizePrice_normalized htrigger
  obtain ⟨priceValue, hprice⟩ := normalizePrice_normalized haggressive
  obtain ⟨position, hposition, -, hside, hreduces, hcloses⟩ :=
    assertReduceOnly_reduces hassert hsize
  simp only [requiredReference, except_bind_eq_ok] at hreference
  obtain ⟨text, htext, positive, hpositive, hreference⟩ := hreference
  have hreferenceValue := isReference_of_positive htext hpositive hreference
  rw [insideSlippage_iff, htrigger.parsed hparsedTrigger, hprice.parsed hparsedAggressive]
    at hinside
  rw [compareDecimal_eq, htrigger.parsed hparsedTrigger] at hdirection
  exact ⟨_, sizeValue, triggerValue, priceValue, validatedAction_intent hvalidated, ⟨rfl, rfl⟩,
    hsize, htrigger, hprice, ⟨bps, hbps, hleast, hmost, hinside⟩, position, reference.value,
    hposition, hreferenceValue, hreduces, hcloses rfl, triggerSide_of_direction hside hdirection⟩

/-- **What the validator accepts is sound**, read as exact values. -/
theorem validation_sound (viem : Viem) (input : TradingActionValidationInput)
    (validated : ValidatedTradingAction) (h : validateTradingAction viem input = .ok validated) :
    SoundAction input validated.intent := by
  simp only [validateTradingAction, except_bind_eq_ok] at h
  obtain ⟨_, -, h⟩ := h
  unfold SoundAction
  cases hintent : input.intent with
  | marketOrder intent =>
    rw [hintent] at h
    exact validateMarketOrder_sound h
  | limitOrder intent =>
    rw [hintent] at h
    exact validateLimitOrder_sound h
  | reduceOnlyClose intent =>
    rw [hintent] at h
    exact validateReduceOnlyClose_sound h
  | positionTpsl intent =>
    rw [hintent] at h
    exact validatePositionTpsl_sound h
  | cancel intent => trivial
  | updateLeverage intent => trivial
  | bulkCancel intent =>
    rw [hintent] at h
    simp [invalid] at h

/-- A limit order that is accepted. -/
theorem validation_sound_limit : SoundAction limitInput limitValidated.intent :=
  validation_sound digitViem limitInput limitValidated (by decide)

end HyperTrader
