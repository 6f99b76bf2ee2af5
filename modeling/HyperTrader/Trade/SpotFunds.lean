import HyperTrader.Trade.Presets

/-!
# The funds of spot orders

The account of a spot market is its free quote balance, for both sides. The margin check
therefore bounds the notional of a purchase and of a sale by the quote balance; the base
balance is carried along as a position, which no spot order is checked against.
-/

namespace HyperTrader

open Library

/-- `SpotBalance`, but for the entry notional. -/
structure SpotBalance where
  coin : String
  token : ℤ
  hold : String
  total : String

structure SpotClearinghouseState where
  balances : List SpotBalance

def balanceParts (value : String) : Outcome ParsedDecimal := do
  let text ← (readDecimal value).elim (.error (.error "Account balance is invalid.")) .ok
  pure ⟨if text.negative then -text.coefficient else text.coefficient, text.fraction.length⟩

def formatUnsignedDecimal (coefficient : ℤ) (scale : ℕ) : Option String :=
  if coefficient < 0 then none else some (formatScaled coefficient.toNat scale)

def availableSpotFunds (total hold : String) : Outcome (Option String) := do
  let parsedTotal ← balanceParts total
  let parsedHold ← balanceParts hold
  let scale := max parsedTotal.scale parsedHold.scale
  let totalCoefficient := parsedTotal.coefficient * 10 ^ (scale - parsedTotal.scale)
  let holdCoefficient := parsedHold.coefficient * 10 ^ (scale - parsedHold.scale)
  pure (formatUnsignedDecimal (totalCoefficient - holdCoefficient) scale)

def SpotClearinghouseState.ofToken (state : SpotClearinghouseState) (token : TokenIdentity) :
    List SpotBalance :=
  state.balances.filter (·.token = token.index)

def tradeSpotAccountSnapshot (state : SpotClearinghouseState) (market : SpotMarket)
    (observedAtMs : ℤ) : Outcome (Option TradeAccountSnapshot) :=
  if ¬isSafeInteger observedAtMs ∨ observedAtMs < 0 then pure none
  else
    match state.ofToken market.quoteToken, state.ofToken market.baseToken with
    | [quoteBalance], baseBalances =>
      if 1 < baseBalances.length then pure none
      else do
        let availableFunds ← availableSpotFunds quoteBalance.total quoteBalance.hold
        let positionSize := (baseBalances.head?.map (·.total)).getD "0"
        match availableFunds with
        | none => pure none
        | some availableFunds =>
          if (readDecimal positionSize).isNone then pure none
          else
            pure (some
              { availableFunds := ⟨availableFunds, availableFunds⟩
                leverage := none
                marginMode := none
                positionSize := positionSize
                version := observedAtMs
                observedAtMs := observedAtMs })
    | _, _ => pure none

def FreeBalance (state : SpotClearinghouseState) (token : TokenIdentity) (free : ℚ) : Prop :=
  ∃ balance total hold, state.ofToken token = [balance] ∧
    decimalValue balance.total = some total ∧ decimalValue balance.hold = some hold ∧
    free = total - hold

theorem balanceParts_value {value : String} {parsed : ParsedDecimal}
    (h : balanceParts value = .ok parsed) : decimalValue value = some parsed.value := by
  simp only [balanceParts, except_bind_eq_ok, elim_error_eq_ok] at h
  obtain ⟨text, hread, hresult⟩ := h
  cases hresult
  rw [decimalValue, hread, Option.map_some]
  unfold DecimalText.value ParsedDecimal.value
  cases text.negative with
  | true => simp
  | false => simp

theorem ParsedDecimal.value_rescaled (parsed : ParsedDecimal) {scale : ℕ}
    (h : parsed.scale ≤ scale) :
    ((parsed.coefficient * 10 ^ (scale - parsed.scale) : ℤ) : ℚ) = parsed.value * 10 ^ scale := by
  unfold ParsedDecimal.value
  rw [← Nat.add_sub_cancel' h, pow_add, Nat.add_sub_cancel_left]
  push_cast
  field_simp

theorem availableSpotFunds_value {total hold funds : String}
    (h : availableSpotFunds total hold = .ok (some funds)) :
    ∃ totalValue holdValue, decimalValue total = some totalValue ∧
      decimalValue hold = some holdValue ∧ 0 ≤ totalValue - holdValue ∧
      decimalValue funds = some (totalValue - holdValue) := by
  simp only [availableSpotFunds, except_bind_eq_ok] at h
  obtain ⟨parsedTotal, htotal, parsedHold, hhold, hresult⟩ := h
  have hfunds := Except.ok.inj hresult
  set scale := max parsedTotal.scale parsedHold.scale with hscale
  set difference := parsedTotal.coefficient * 10 ^ (scale - parsedTotal.scale) -
    parsedHold.coefficient * 10 ^ (scale - parsedHold.scale) with hdifference
  have hvalue : (difference : ℚ) = (parsedTotal.value - parsedHold.value) * 10 ^ scale := by
    rw [hdifference, Int.cast_sub, parsedTotal.value_rescaled (le_max_left _ _),
      parsedHold.value_rescaled (le_max_right _ _), sub_mul]
  have hpow : (0 : ℚ) < 10 ^ scale := by positivity
  unfold formatUnsignedDecimal at hfunds
  split_ifs at hfunds with hnegative
  cases hfunds
  have hnonneg : 0 ≤ difference := not_lt.mp hnegative
  have hcast : ((difference.toNat : ℕ) : ℚ) = difference := by
    exact_mod_cast congrArg (Int.cast (R := ℚ)) (Int.toNat_of_nonneg hnonneg)
  refine ⟨parsedTotal.value, parsedHold.value, balanceParts_value htotal,
    balanceParts_value hhold, ?_, ?_⟩
  · have hle : (0 : ℚ) ≤ difference := by exact_mod_cast hnonneg
    rw [hvalue] at hle
    exact nonneg_of_mul_nonneg_left hle hpow
  · rw [formatScaled_value, hcast, hvalue, mul_div_cancel_right₀ _ hpow.ne']

theorem tradeSpotAccountSnapshot_funds {state : SpotClearinghouseState} {market : SpotMarket}
    {observedAtMs : ℤ} {snapshot : TradeAccountSnapshot}
    (h : tradeSpotAccountSnapshot state market observedAtMs = .ok (some snapshot)) :
    ∃ free, FreeBalance state market.quoteToken free ∧ 0 ≤ free ∧
      ∀ side, decimalValue (snapshot.availableFunds.of side) = some free := by
  unfold tradeSpotAccountSnapshot at h
  split_ifs at h with htime
  · cases h
  · cases hquote : state.ofToken market.quoteToken with
    | nil => simp [hquote, pure, Except.pure] at h
    | cons balance rest =>
      cases rest with
      | cons other rest => simp [hquote, pure, Except.pure] at h
      | nil =>
        simp only [hquote] at h
        by_cases hbase : 1 < (state.ofToken market.baseToken).length
        · rw [if_pos hbase] at h
          cases h
        · rw [if_neg hbase] at h
          obtain ⟨funds, hfunds, h⟩ := except_bind_eq_ok.mp h
          cases funds with
          | none => cases h
          | some funds =>
            simp only at h
            split_ifs at h with hposition
            · cases h
            · cases h
              obtain ⟨total, hold, htotal, hhold, hnonneg, hvalue⟩ :=
                availableSpotFunds_value hfunds
              refine ⟨total - hold, ⟨balance, total, hold, hquote, htotal, hhold, rfl⟩,
                hnonneg, fun side => ?_⟩
              cases side with
              | buy => exact hvalue
              | sell => exact hvalue

variable {viem : Viem} {input : TradeReviewInput} {binding : SignerBinding}
  {validation : TradingActionValidationInput} {spot : SpotMarket}
  {snapshot : TradeAccountSnapshot}

theorem BuiltOf.spotRules {account : TradeAccountSnapshot} {precision : PricePrecisionInputs}
    {slippage : Option ℤ} (h : BuiltOf input binding validation account precision slippage)
    (hmarket : input.market = .spot spot) :
    validation.market.family = .spot ∧ validation.market.onlyIsolated = none ∧
      validation.account.availableMargin = account.availableFunds.of input.draft.side := by
  rw [h.eq, hmarket]
  exact ⟨rfl, rfl, rfl⟩

theorem admittedLeverage_spot (hfamily : validation.market.family = .spot)
    (hisolated : validation.market.onlyIsolated = none) (leverage : ℤ) :
    AdmittedLeverage validation leverage ↔ leverage = 1 := by
  have hrequested : requestedLeverage validation = some 1 := by
    rw [requestedLeverage, if_pos hfamily]
  constructor
  · intro h
    exact (Option.some.inj (hrequested.symm.trans h.requested)).symm
  · rintro rfl
    refine ⟨hrequested, by decide, ⟨1, if_pos hfamily, by decide⟩, fun h => ?_⟩
    rw [hisolated] at h
    cases h

/-- What an accepted spot order is: its texts have a size and a price whose product the free
balance covers. -/
structure SpotAccepted (validated : TradingActionIntent) (free size price : ℚ) : Prop where
  order : (∃ order, validated = .marketOrder order ∧ decimalValue order.size = some size ∧
      decimalValue order.aggressiveLimitPrice = some price) ∨
    ∃ order, validated = .limitOrder order ∧ decimalValue order.size = some size ∧
      decimalValue order.limitPrice = some price
  positive : 0 < size ∧ 0 < price
  covered : size * price ≤ free

structure SpotBounds (viem : Viem) (state : SpotClearinghouseState) (spot : SpotMarket)
    (snapshot : TradeAccountSnapshot) (free : ℚ) : Prop where
  quote : FreeBalance state spot.quoteToken free
  /-- An accepted order of either side is covered by the free quote balance. -/
  accepted : ∀ input review, input.market = .spot spot →
    input.authority.account = some snapshot → buildTradeReview viem input = .ok review →
    ∃ size price, SpotAccepted review.validated.intent free size price
  /-- An order that meets the minimum notional is refused for lack of funds exactly where
  the free quote balance does not cover it. -/
  margin : ∀ input binding validation notional, input.market = .spot spot →
    input.authority.account = some snapshot →
    tradeValidation input = .ok (binding, validation) →
    assertMinimumNotional validation.market notional = .ok () →
    (assertMargin validation notional false = .ok () ↔
      utf16Length (snapshot.availableFunds.of input.draft.side) ≤ maxDecimalInputLength ∧
        notional.value ≤ free)

theorem funded_spot {notional free : ℚ} (hfamily : validation.market.family = .spot)
    (hfunds : decimalValue validation.account.availableMargin = some free)
    (h : Funded validation notional) : notional ≤ free := by
  obtain ⟨leverage, available, hleverage, -, havailable, hle⟩ := h.margin
  rw [requestedLeverage, if_pos hfamily] at hleverage
  cases hleverage
  rw [hfunds] at havailable
  cases havailable
  rwa [Int.cast_one, div_one] at hle

theorem spot_accepted {review : ActionReviewSnapshot} {free : ℚ}
    (hfunds : ∀ side, decimalValue (snapshot.availableFunds.of side) = some free)
    (hmarket : input.market = .spot spot) (haccount : input.authority.account = some snapshot)
    (h : buildTradeReview viem input = .ok review) :
    ∃ size price, SpotAccepted review.validated.intent free size price := by
  obtain ⟨binding, validation, hbuilt, hvalidated⟩ := buildTradeReview_validated h
  have hsound := validation_sound viem validation review.validated hvalidated
  obtain ⟨account, precision, slippage, hbuilt⟩ := builtOf_of_tradeValidation hbuilt
  have hsame : account = snapshot := Option.some.inj (hbuilt.ofAccount.symm.trans haccount)
  subst hsame
  obtain ⟨hfamily, -, hmargin⟩ := hbuilt.spotRules hmarket
  have hfree : decimalValue validation.account.availableMargin = some free := by
    rw [hmargin]
    exact hfunds _
  unfold SoundAction at hsound
  cases horder : input.draft.orderType with
  | market =>
    obtain ⟨bps, price, -, -, hintent⟩ := hbuilt.marketOrder horder
    rw [hintent] at hsound
    obtain ⟨order, size, price, heq, hsound⟩ := hsound
    exact ⟨size, price, .inl ⟨order, heq, hsound.sizeText.ofNormal, hsound.priceText.ofNormal⟩,
      ⟨hsound.sizeText.positive, hsound.priceText.positive⟩,
      funded_spot hfamily hfree hsound.funded⟩
  | limit =>
    obtain ⟨-, hintent⟩ := hbuilt.limitOrder horder
    rw [hintent] at hsound
    obtain ⟨order, size, price, heq, hsound⟩ := hsound
    have hkept : (input.market.family == .perp && input.draft.reduceOnly) = false := by
      rw [hmarket]
      rfl
    exact ⟨size, price, .inr ⟨order, heq, hsound.sizeText.ofNormal, hsound.priceText.ofNormal⟩,
      ⟨hsound.sizeText.positive, hsound.priceText.positive⟩,
      funded_spot hfamily hfree (hsound.funded hkept)⟩

/-- **The free quote balance bounds every order of a spot market**, the sales too. -/
theorem spot_orders_bounded (viem : Viem) {state : SpotClearinghouseState} {observedAtMs : ℤ}
    (h : tradeSpotAccountSnapshot state spot observedAtMs = .ok (some snapshot)) :
    ∃ free, SpotBounds viem state spot snapshot free := by
  obtain ⟨free, hquote, hnonneg, hfunds⟩ := tradeSpotAccountSnapshot_funds h
  refine ⟨free, hquote, ?_, ?_⟩
  · intro input review hmarket haccount hbuilt
    exact spot_accepted hfunds hmarket haccount hbuilt
  · intro input binding validation notional hmarket haccount hbuilt hminimum
    obtain ⟨account, precision, slippage, hbuilt⟩ := builtOf_of_tradeValidation hbuilt
    have hsame : account = snapshot := Option.some.inj (hbuilt.ofAccount.symm.trans haccount)
    subst hsame
    obtain ⟨hfamily, hisolated, hmargin⟩ := hbuilt.spotRules hmarket
    have hfree : decimalValue validation.account.availableMargin = some free := by
      rw [hmargin]
      exact hfunds _
    rw [assertMargin_iff hfree hnonneg hminimum, hmargin]
    simp only [admittedLeverage_spot hfamily hisolated, exists_eq_left, Int.cast_one, mul_one]

def swapToken : TokenIdentity :=
  ⟨42, "0x00000000000000000000000000000042", "SWAP", none, 2, 8, true, none⟩

def usdcToken : TokenIdentity :=
  ⟨0, "0x00000000000000000000000000000000", "USDC", none, 8, 8, true, none⟩

def swapMarket : SpotMarket where
  canonicalId := "spot:7"
  displaySymbol := "SWAP/USDC"
  coin := "@7"
  universeIndex := 7
  orderAssetId := 10007
  lifecycle := .active
  orderAvailability := .enabled
  validationReasons := []
  context := ⟨none, none, none, none, none, some (some "10"), none, none, none, none⟩
  sizeDecimals := 2
  pricePrecision := ⟨5, 6⟩
  baseToken := swapToken
  quoteToken := usdcToken
  isCanonical := true

/-- A balance of the token to sell and one of the token it is sold for. -/
def swapState (quote : String) : SpotClearinghouseState where
  balances := [⟨"USDC", 0, "0", quote⟩, ⟨"SWAP", 42, "0", "3"⟩]

def swapAccount (quote : String) : TradeAccountSnapshot where
  availableFunds := ⟨quote, quote⟩
  leverage := none
  marginMode := none
  positionSize := "3"
  version := 1000
  observedAtMs := 1000

def swapSale (size : String) : TradeDraft :=
  { ticketDraft (.spot swapMarket) none size with side := .sell }

theorem spot_orders_bounded_swap :
    ∃ free, SpotBounds digitViem (swapState "100") swapMarket (swapAccount "100") free :=
  spot_orders_bounded digitViem (by decide : tradeSpotAccountSnapshot (swapState "100")
    swapMarket 1000 = .ok (some (swapAccount "100")))

/-- With quote funds, a sale of more than the whole base balance is accepted; without them,
a sale of a part of it is refused. -/
theorem spot_sale_by_quote :
    tradeSpotAccountSnapshot (swapState "100") swapMarket 1000 =
        .ok (some (swapAccount "100")) ∧
      (buildTradeReview digitViem
        (ticketInput (.spot swapMarket) (swapAccount "100") (swapSale "9"))).isOk = true ∧
      tradeSpotAccountSnapshot (swapState "0") swapMarket 1000 =
        .ok (some (swapAccount "0")) ∧
      buildTradeReview digitViem (ticketInput (.spot swapMarket) (swapAccount "0") (swapSale "2")) =
        .error (.validation "account.availableMargin"
          "insufficient current margin for this action") := by
  decide +kernel

end HyperTrader
