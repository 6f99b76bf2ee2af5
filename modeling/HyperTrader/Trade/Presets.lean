import HyperTrader.Actions.Soundness
import HyperTrader.Trade.Ticket

/-!
# Size presets

A preset takes a share of the funds, at the requested leverage and the market's reference,
rounded down to the size step: it is the largest size whose value does not exceed the
share. The order that is built from it is charged at its limit price, so the margin check
passes exactly where that price leaves the funds enough.
-/

namespace HyperTrader

open Library

def parseUnsignedDecimal (value path : String) : Outcome DecimalText := do
  let invalid : Failure := .error (path ++ " must be a positive decimal value.")
  let text ← (readDecimal value).elim (.error invalid) .ok
  require (text.negative = false) invalid
  require (0 < text.coefficient) (.error (path ++ " must be greater than zero."))
  pure text

def sizeForPreset (availableFunds referencePrice : String) (leverage : ℤ) (percentage : ℕ)
    (sizeDecimals : ℤ) : Outcome String := do
  require (isSafeInteger leverage ∧ 1 ≤ leverage ∧ isSafeInteger sizeDecimals ∧
      0 ≤ sizeDecimals ∧ sizeDecimals ≤ 18)
    (.error "Current leverage or size precision is unavailable.")
  let available ← parseUnsignedDecimal availableFunds "Available funds"
  let price ← parseUnsignedDecimal referencePrice "Reference price"
  let numerator := available.coefficient * leverage.toNat * percentage *
    10 ^ (price.fraction.length + sizeDecimals.toNat)
  let denominator := 100 * price.coefficient * 10 ^ available.fraction.length
  let coefficient := numerator / denominator
  require (0 < coefficient)
    (.error "This preset is below the current size precision. Enter a larger size.")
  pure (formatScaled coefficient sizeDecimals.toNat)

def panelLeverage (market : Market) (account : TradeAccountSnapshot) : Option ℤ :=
  if market.family = .spot then some 1 else account.leverage

def applyPreset (market : Market) (account : Option TradeAccountSnapshot) (draft : TradeDraft)
    (percentage : ℕ) : Outcome TradeDraft := do
  let unavailable : Failure := .error
    "Current funds, price, leverage, and precision are required for a size preset."
  let account ← account.elim (.error unavailable) .ok
  let referencePrice ← (market.base.context.midPx.join.or market.base.context.markPx).elim
    (.error unavailable) .ok
  let leverage ← (panelLeverage market account).elim (.error unavailable) .ok
  let sizeDecimals ← market.sizeDecimals.elim (.error unavailable) .ok
  let size ← sizeForPreset (account.availableFunds.of draft.side) referencePrice leverage
    percentage sizeDecimals
  pure { draft with size := size }

/-- The size is a multiple of the size step, the largest whose value at the reference does
not exceed the share of the funds. -/
structure LargestWithin (sizeDecimals : ℕ) (share reference size : ℚ) : Prop where
  multiple : ∃ n : ℕ, size = n / 10 ^ sizeDecimals
  within : size * reference ≤ share
  largest : ∀ n : ℕ, (n : ℚ) / 10 ^ sizeDecimals * reference ≤ share →
    (n : ℚ) / 10 ^ sizeDecimals ≤ size

theorem largestWithin_div {numerator denominator sizeDecimals : ℕ} {share reference : ℚ}
    (hreference : 0 < reference) (hdenominator : 0 < denominator)
    (hquotient : (numerator : ℚ) / denominator = share / reference * 10 ^ sizeDecimals) :
    LargestWithin sizeDecimals share reference
      ((numerator / denominator : ℕ) / 10 ^ sizeDecimals) := by
  have hscale : (0 : ℚ) < 10 ^ sizeDecimals := by positivity
  have hpos : (0 : ℚ) < denominator := by exact_mod_cast hdenominator
  have hiff : ∀ n : ℕ, (n : ℚ) / 10 ^ sizeDecimals * reference ≤ share ↔
      n ≤ numerator / denominator := by
    intro n
    rw [Nat.le_div_iff_mul_le hdenominator, ← le_div_iff₀ hreference, div_le_iff₀ hscale,
      ← hquotient, le_div_iff₀ hpos]
    exact_mod_cast Iff.rfl
  refine ⟨⟨_, rfl⟩, (hiff _).mpr le_rfl, fun n hn => ?_⟩
  rw [div_le_div_iff_of_pos_right hscale]
  exact_mod_cast (hiff n).mp hn

theorem parseUnsignedDecimal_eq_ok {value path : String} {text : DecimalText}
    (h : parseUnsignedDecimal value path = .ok text) :
    readDecimal value = some text ∧ text.negative = false ∧ 0 < text.coefficient := by
  simp only [parseUnsignedDecimal, except_bind_eq_ok, require_eq_ok, elim_error_eq_ok] at h
  obtain ⟨found, hread, -, hsign, -, hpositive, hresult⟩ := h
  cases hresult
  exact ⟨hread, hsign, hpositive⟩

def fundedShare (available : ℚ) (leverage : ℤ) (percentage : ℕ) : ℚ :=
  available * leverage * percentage / 100

theorem sizeForPreset_largest {availableFunds referencePrice size : String} {leverage : ℤ}
    {percentage : ℕ} {sizeDecimals : ℤ}
    (h : sizeForPreset availableFunds referencePrice leverage percentage sizeDecimals = .ok size) :
    ∃ available reference, IsPositiveDecimal availableFunds available ∧
      IsPositiveDecimal referencePrice reference ∧ (isSafeInteger leverage ∧ 1 ≤ leverage) ∧
      ∃ coefficient : ℕ, 0 < coefficient ∧ size = formatScaled coefficient sizeDecimals.toNat ∧
        LargestWithin sizeDecimals.toNat (fundedShare available leverage percentage) reference
          ((coefficient : ℚ) / 10 ^ sizeDecimals.toNat) := by
  simp only [sizeForPreset, except_bind_eq_ok, require_eq_ok] at h
  obtain ⟨_, ⟨hsafe, hleverage, -, -, -⟩, available, havailable, price, hprice, _, hpositive,
    hresult⟩ := h
  cases hresult
  obtain ⟨hreadFunds, hsignFunds, hposFunds⟩ := parseUnsignedDecimal_eq_ok havailable
  obtain ⟨hreadPrice, hsignPrice, hposPrice⟩ := parseUnsignedDecimal_eq_ok hprice
  have hreference := DecimalText.value_pos hsignPrice hposPrice
  refine ⟨available.value, price.value,
    isPositiveDecimal_iff.mpr ⟨_, hreadFunds, hsignFunds, hposFunds, rfl⟩,
    isPositiveDecimal_iff.mpr ⟨_, hreadPrice, hsignPrice, hposPrice, rfl⟩,
    ⟨hsafe, hleverage⟩, _, hpositive, rfl, ?_⟩
  refine largestWithin_div hreference (by positivity) ?_
  have hcast : ((leverage.toNat : ℕ) : ℚ) = leverage := by
    exact_mod_cast congrArg (Int.cast (R := ℚ)) (Int.toNat_of_nonneg (by omega : 0 ≤ leverage))
  have hcoefficient : (price.coefficient : ℚ) ≠ 0 := by
    exact_mod_cast hposPrice.ne'
  rw [fundedShare, DecimalText.value_of_not_negative hsignFunds,
    DecimalText.value_of_not_negative hsignPrice]
  push_cast
  rw [hcast, pow_add]
  field_simp

theorem trim_eq_self {text : String} (h : ∀ c ∈ text.toList, isTrimmed c = false) :
    trim text = text := by
  have hkept : ∀ chars : List Char, (∀ c ∈ chars, isTrimmed c = false) →
      chars.dropWhile isTrimmed = chars := by
    intro chars hchars
    rw [List.dropWhile_eq_self_iff]
    intro hlength
    rw [hchars _ (List.getElem_mem hlength)]
    decide
  unfold trim
  rw [hkept _ h, hkept _ fun c hc => h c (List.mem_reverse.mp hc), List.reverse_reverse,
    String.ofList_toList]

theorem isTrimmed_of_isDigit {c : Char} (h : c.isDigit = true) : isTrimmed c = false := by
  have hrange : c.toNat ≤ 57 := by
    have hboth : 48 ≤ c.toNat ∧ c.toNat ≤ 57 := by
      simpa [Char.isDigit, UInt32.le_iff_toNat_le] using h
    exact hboth.2
  have hlist : ∀ d ∈ ['\t', '\n', '\x0b', '\x0c', '\r', ' ', '\u00a0', '\u1680', '\u2028',
      '\u2029', '\u202f', '\u205f', '\u3000', '\ufeff'], d.isDigit = false := by
    simp [Char.isDigit]
  unfold isTrimmed
  rw [Bool.or_eq_false_iff]
  constructor
  · by_contra hspace
    rw [Bool.not_eq_false, List.contains_iff_mem] at hspace
    rw [hlist c hspace] at h
    cases h
  · simp only [decide_eq_false_iff_not, Bool.and_eq_false_iff]
    omega

theorem trim_formatScaled (coefficient scale : ℕ) :
    trim (formatScaled coefficient scale) = formatScaled coefficient scale := by
  obtain ⟨text, hread, hsign, -, -⟩ := exists_readDecimal_formatScaled coefficient scale
  obtain ⟨hwhole, hfraction⟩ := readDecimal_digits hread
  have hdigits := (isWholePart_iff.mp hwhole).2.1
  refine trim_eq_self fun c hc => ?_
  rw [toList_of_readDecimal hread, hsign, if_neg Bool.false_ne_true, List.nil_append,
    List.mem_append] at hc
  rcases hc with hc | hc
  · exact isTrimmed_of_isDigit (hdigits c hc)
  · split_ifs at hc with hnil
    · cases hc
    · rcases List.mem_cons.mp hc with rfl | hc
      · decide
      · exact isTrimmed_of_isDigit (hfraction c hc)

section

variable {input : TradeReviewInput} {binding : SignerBinding}
  {validation : TradingActionValidationInput} {draft sized : TradeDraft} {percentage : ℕ}

structure PresetSize (market : Market) (account : TradeAccountSnapshot) (draft : TradeDraft)
    (percentage : ℕ) (sized : TradeDraft) (leverage : ℤ) (reference size : ℚ) : Prop where
  ofDraft : ∃ text, sized = { draft with size := text } ∧ trim text = text ∧
    decimalValue text = some size
  ofLeverage : panelLeverage market account = some leverage
  ofReference : IsPositiveDecimal (tradeReferencePrice market) reference
  largest : ∃ sizeDecimals available, market.sizeDecimals = some sizeDecimals ∧
    IsPositiveDecimal (account.availableFunds.of draft.side) available ∧
    LargestWithin sizeDecimals.toNat (fundedShare available leverage percentage) reference size

theorem applyPreset_size {market : Market} {account : Option TradeAccountSnapshot}
    (h : applyPreset market account draft percentage = .ok sized) :
    ∃ snapshot leverage reference size, account = some snapshot ∧ 0 < size ∧
      PresetSize market snapshot draft percentage sized leverage reference size := by
  simp only [applyPreset, except_bind_eq_ok, elim_error_eq_ok] at h
  obtain ⟨snapshot, haccount, referencePrice, hreferencePrice, leverage, hleverage, sizeDecimals,
    hsizeDecimals, text, hsize, hresult⟩ := h
  cases hresult
  obtain ⟨available, reference, havailable, hreference, -, coefficient, hcoefficient, rfl,
    hlargest⟩ := sizeForPreset_largest hsize
  have hprice : tradeReferencePrice market = referencePrice := by
    rw [tradeReferencePrice, hreferencePrice, Option.getD_some]
  refine ⟨snapshot, leverage, reference, _, haccount, ?_, ⟨_, rfl, trim_formatScaled _ _,
    formatScaled_value _ _⟩, hleverage, hprice ▸ hreference, sizeDecimals, available,
    hsizeDecimals, havailable, hlargest⟩
  positivity

variable {reference size : ℚ} {leverage : ℤ}

theorem covered_of_price {available price : ℚ} (hsize : 0 < size) (hreference : 0 < reference)
    (hwithin : size * reference ≤ fundedShare available leverage percentage)
    (hprice : percentage * price ≤ 100 * reference) : size * price ≤ available * leverage := by
  have hshare : size * reference * 100 ≤ available * leverage * percentage := by
    rwa [fundedShare, le_div_iff₀ (by norm_num)] at hwithin
  have hpercentage : (0 : ℚ) < percentage := by
    rcases Nat.eq_zero_or_pos percentage with hzero | hpositive
    · rw [hzero, Nat.cast_zero, mul_zero] at hshare
      have hpos : 0 < size * reference * 100 := by positivity
      linarith
    · exact_mod_cast hpositive
  have hscaled : size * price * percentage ≤ available * leverage * percentage := by
    calc size * price * percentage = size * (percentage * price) := by ring
      _ ≤ size * (100 * reference) := by gcongr
      _ = size * reference * 100 := by ring
      _ ≤ available * leverage * percentage := hshare
  exact le_of_mul_le_mul_right hscaled hpercentage

/-- What is said of the market order that is built of a preset: when the margin check
passes that follows the minimum notional, and which limit prices leave the funds enough. -/
structure PresetOrder (validation : TradingActionValidationInput) (draft : TradeDraft)
    (percentage : ℕ) (side : OrderSide) (leverage : ℤ) (reference size funds : ℚ)
    (order : MarketOrderIntent) (bps : ℤ) (price : ℚ) : Prop where
  intent : validation.intent = .marketOrder order
  slippage : validation.controls.slippageBps = some bps
  ofPrice : decimalValue order.aggressiveLimitPrice = some price
  margin : ∀ normalSize normalPrice notional,
    normalizedTerms validation order.assetId order.size order.aggressiveLimitPrice =
      .ok (normalSize, normalPrice, notional) →
    assertMinimumNotional validation.market notional = .ok () →
    (assertMargin validation notional false = .ok () ↔
      utf16Length validation.account.availableMargin ≤ maxDecimalInputLength ∧
        AdmittedLeverage validation leverage ∧ size * price ≤ funds * leverage)
  covered : side = draft.side → percentage * price ≤ 100 * reference →
    size * price ≤ funds * leverage
  purchase : side = .buy → percentage * (10000 + bps) ≤ 1000000 →
    percentage * price ≤ 100 * reference

theorem PresetSize.order {account : TradeAccountSnapshot}
    {funds : ℚ} {side : OrderSide} (hpositive : 0 < size)
    (h : PresetSize input.market account draft percentage sized leverage reference size)
    (hmarket : draft.orderType = .market)
    (hfunds : decimalValue (account.availableFunds.of side) = some funds) (hnonneg : 0 ≤ funds)
    (haccount : input.authority.account = some account)
    (hdraft : input.draft = { sized with side := side })
    (hbuilt : tradeValidation input = .ok (binding, validation)) :
    ∃ order bps price, PresetOrder validation draft percentage side leverage reference size
      funds order bps price := by
  obtain ⟨account', precision, slippage, hbuilt⟩ := builtOf_of_tradeValidation hbuilt
  have hsame : account' = account := Option.some.inj (hbuilt.ofAccount.symm.trans haccount)
  subst hsame
  obtain ⟨text, rfl, htrim, hsize⟩ := h.ofDraft
  obtain ⟨bps, priceText, rfl, hprice, hintent⟩ :=
    hbuilt.marketOrder (by rw [hdraft]; exact hmarket)
  obtain ⟨price, reference', hpriceValue, hreference', -, -, hslippage⟩ :=
    aggressiveOrderPrice_within hprice
  have hreference : reference' = reference :=
    Option.some.inj (hreference'.symm.trans h.ofReference.1)
  subst hreference
  have hsizeText : trim input.draft.size = text := by
    rw [hdraft]
    exact htrim
  have hsideEq : input.draft.side = side := by rw [hdraft]
  rw [hsizeText] at hintent
  rw [hsideEq] at hintent hslippage
  have hvalidation := hbuilt.eq
  rw [hsideEq] at hvalidation
  have hmargin : validation.account.availableMargin = account'.availableFunds.of side := by
    rw [hvalidation]
    rfl
  have hrequested : requestedLeverage validation = panelLeverage input.market account' := by
    rw [hvalidation]
    unfold requestedLeverage panelLeverage
    change (if input.market.family = .spot then some 1 else
      if input.market.family = .spot then some 1 else account'.leverage) = _
    split_ifs
    · rfl
    · rfl
  refine ⟨_, bps, price, hintent, by rw [hvalidation], hpriceValue, ?_, ?_, ?_⟩
  · intro normalSize normalPrice notional hterms hminimum
    obtain ⟨sizeValue, priceValue, hsizeValue, hpriceNormal, hnotional⟩ :=
      normalizedTerms_normalized hterms
    have hsizeSame : sizeValue = size := Option.some.inj (hsizeValue.ofRaw.symm.trans hsize)
    have hpriceSame : priceValue = price :=
      Option.some.inj (hpriceNormal.ofRaw.symm.trans hpriceValue)
    rw [assertMargin_iff (by rw [hmargin]; exact hfunds) hnonneg hminimum, hnotional, hsizeSame,
      hpriceSame]
    refine and_congr_right fun _ => ⟨?_, fun hadmitted => ⟨leverage, hadmitted⟩⟩
    rintro ⟨other, hadmitted, hle⟩
    have hother : other = leverage := Option.some.inj
      (hadmitted.requested.symm.trans (hrequested.trans h.ofLeverage))
    subst hother
    exact ⟨hadmitted, hle⟩
  · rintro rfl hle
    obtain ⟨_, available, -, havailable, hlargest⟩ := h.largest
    have hfundsSame : funds = available :=
      Option.some.inj (hfunds.symm.trans havailable.1)
    subst hfundsSame
    exact covered_of_price hpositive h.ofReference.2 hlargest.within hle
  · rintro rfl hle
    have hbound : price ≤ reference' * (10000 + bps) / 10000 := hslippage
    rw [le_div_iff₀ (by norm_num)] at hbound
    have hcast : (percentage : ℚ) * (10000 + bps) ≤ 1000000 := by exact_mod_cast hle
    have hscaled : (percentage : ℚ) * price * 10000 ≤ 100 * reference' * 10000 := by
      calc (percentage : ℚ) * price * 10000 = percentage * (price * 10000) := by ring
        _ ≤ percentage * (reference' * (10000 + bps)) := by gcongr
        _ = reference' * (percentage * (10000 + bps)) := by ring
        _ ≤ reference' * 1000000 :=
            mul_le_mul_of_nonneg_left hcast h.ofReference.2.le
        _ = 100 * reference' * 10000 := by ring
    exact le_of_mul_le_mul_right hscaled (by norm_num)

/-- **A preset is the largest size that its share covers**, and the market order that is
built of it passes the margin check exactly where the funds cover it at its limit price. -/
theorem preset_admissible_iff {market : Market} {account : Option TradeAccountSnapshot}
    (h : applyPreset market account draft percentage = .ok sized)
    (hmarket : draft.orderType = .market) :
    ∃ snapshot leverage reference size, account = some snapshot ∧
      PresetSize market snapshot draft percentage sized leverage reference size ∧
      ∀ side funds, decimalValue (snapshot.availableFunds.of side) = some funds → 0 ≤ funds →
        ∀ input binding validation, input.market = market →
          input.authority.account = account → input.draft = { sized with side := side } →
          tradeValidation input = .ok (binding, validation) →
          ∃ order bps price, PresetOrder validation draft percentage side leverage reference
            size funds order bps price := by
  obtain ⟨snapshot, leverage, reference, size, rfl, hpositive, hsize⟩ := applyPreset_size h
  refine ⟨snapshot, leverage, reference, size, rfl, hsize, ?_⟩
  rintro side funds hfunds hnonneg input binding validation rfl haccount hdraft hbuilt
  exact hsize.order hpositive hmarket hfunds hnonneg haccount hdraft hbuilt

def bitcoin : Market := .perp
  { canonicalId := "perp:0:BTC"
    displaySymbol := "BTC"
    coin := "BTC"
    universeIndex := 3
    orderAssetId := 3
    lifecycle := .active
    orderAvailability := .enabled
    validationReasons := []
    context := ⟨none, none, none, none, some "60001", some (some "60000"), none, none, none, none⟩
    dexIndex := 0
    dexName := ""
    dexFullName := none
    sizeDecimals := 5
    pricePrecision := ⟨5, 1⟩
    maxLeverage := 40
    onlyIsolated := false
    marginMode := none
    marginTableId := none }

def ticketContext : TradingContextIdentity where
  network := .testnet
  masterAccount := some "0x1111111111111111111111111111111111111111"
  targetAccount := some "0x1111111111111111111111111111111111111111"
  signer := some ⟨"0x2222222222222222222222222222222222222222", 1⟩

def ticketAccount : TradeAccountSnapshot where
  availableFunds := ⟨"1000", "1000"⟩
  leverage := some 5
  marginMode := some .cross
  positionSize := "0"
  version := 1
  observedAtMs := 1000

def ticketDraft (market : Market) (leverage : Option ℤ) (size : String) : TradeDraft where
  binding :=
    { context := ticketContext
      contextKey := contextIdentityKey ticketContext
      marketCanonicalId := market.base.canonicalId
      metadataFingerprint := tradeMarketFingerprint market }
  side := .buy
  orderType := .market
  size := size
  limitPrice := "60000"
  leverage := leverage
  timeInForce := .gtc
  reduceOnly := false
  slippageBps := "50"

def ticketInput (market : Market) (account : TradeAccountSnapshot) (draft : TradeDraft) :
    TradeReviewInput where
  market := market
  context := ticketContext
  capturedContextEpoch := 1
  authority := ⟨.current, some account, .unlocked, true⟩
  draft := draft
  cloid := "0xabcdef0123456789abcdef0123456789"
  nowMs := 1500

/-- Half of the funds. -/
theorem preset_admissible_iff_half : ∃ snapshot leverage reference size,
    some ticketAccount = some snapshot ∧
      PresetSize bitcoin snapshot (ticketDraft bitcoin (some 5) "") 50
        (ticketDraft bitcoin (some 5) "0.04166") leverage reference size ∧
      ∀ side funds, decimalValue (snapshot.availableFunds.of side) = some funds → 0 ≤ funds →
        ∀ input binding validation, input.market = bitcoin →
          input.authority.account = some ticketAccount →
          input.draft = { ticketDraft bitcoin (some 5) "0.04166" with side := side } →
          tradeValidation input = .ok (binding, validation) →
          ∃ order bps price, PresetOrder validation (ticketDraft bitcoin (some 5) "") 50 side
            leverage reference size funds order bps price :=
  preset_admissible_iff (by decide) (by decide)

/-- All of the funds at the reference are too little for the limit price: the notional of
the order is above the minimum, and its margin is refused. -/
theorem preset_of_all_refused :
    applyPreset bitcoin (some ticketAccount) (ticketDraft bitcoin (some 5) "") 100 =
        .ok (ticketDraft bitcoin (some 5) "0.08333") ∧
      assertMinimumNotional (tradeMarketRules bitcoin "60000") ⟨5024799, 3⟩ = .ok () ∧
      buildTradeReview digitViem
        (ticketInput bitcoin ticketAccount (ticketDraft bitcoin (some 5) "0.08333")) =
        .error (.validation "account.availableMargin"
          "insufficient current margin for this action") := by
  decide +kernel

end

end HyperTrader
