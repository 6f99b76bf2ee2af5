import HyperTrader.Actions.Canonical
import HyperTrader.Actions.Preimage

/-!
# What a validated action says on the wire

`ActionTerms` is what an action asks of the exchange: numbers by their value and not
by their text, and the size of an order that follows the whole position left open.
The terms are read off an intent and, by the exchange, off the wire. Every intent the
validator returns is built, canonical and encodable, and its terms on the wire are
its own (`validated_intents_encode`).
-/

namespace HyperTrader

open Library

/-! ### Terms -/

inductive OrderExecution where
  | limit (tif : LimitTimeInForce)
  | trigger (price : ℚ) (kind : PositionTpslKind)

/-- The terms of an order. Without a size the order follows the whole position. -/
structure OrderTerms where
  assetId : ℤ
  side : OrderSide
  size : Option ℚ
  limitPrice : ℚ
  execution : OrderExecution
  reduceOnly : Bool
  cloid : String

inductive ActionTerms where
  | order (terms : OrderTerms) (grouping : OrderGrouping)
  | modify (oid : ℤ) (terms : OrderTerms)
  | cancel (assetId : ℤ) (target : CancelTarget)
  | updateLeverage (assetId : ℤ) (marginMode : MarginMode) (leverage : ℤ)

def sizedTerms (assetId : ℤ) (side : OrderSide) (size price : String)
    (reduceOnly : Bool) (tif : LimitTimeInForce) (cloid : String) :
    Option OrderTerms := do
  let sizeValue ← decimalValue size
  let limitPrice ← decimalValue price
  some
    { assetId := assetId
      side := side
      size := some sizeValue
      limitPrice := limitPrice
      execution := .limit tif
      reduceOnly := reduceOnly
      cloid := cloid }

def PositionTpslIntent.terms (intent : PositionTpslIntent) : Option OrderTerms := do
  let limitPrice ← decimalValue intent.aggressiveLimitPrice
  let triggerPrice ← decimalValue intent.triggerPrice
  some
    { assetId := intent.assetId
      side := intent.side
      size := none
      limitPrice := limitPrice
      execution := .trigger triggerPrice intent.triggerKind
      reduceOnly := true
      cloid := intent.cloid }

/-- The terms of an intent, but for a bulk cancel, which no validator returns. -/
def TradingActionIntent.terms : TradingActionIntent → Option ActionTerms
  | marketOrder intent =>
    (sizedTerms intent.assetId intent.side intent.size intent.aggressiveLimitPrice
      false .ioc intent.cloid).map (.order · .na)
  | limitOrder intent =>
    (sizedTerms intent.assetId intent.side intent.size intent.limitPrice
      intent.reduceOnly intent.timeInForce intent.cloid).map (.order · .na)
  | reduceOnlyClose intent =>
    (sizedTerms intent.assetId intent.side intent.size intent.aggressiveLimitPrice
      true .ioc intent.cloid).map (.order · .na)
  | positionTpsl intent =>
    match intent.existingOid with
    | none => intent.terms.map (.order · .positionTpsl)
    | some oid => intent.terms.map (.modify oid)
  | cancel intent => some (.cancel intent.assetId intent.target)
  | bulkCancel _ => none
  | updateLeverage intent =>
    some (.updateLeverage intent.assetId intent.marginMode intent.leverage)

def OrderTypeWire.execution : OrderTypeWire → Option OrderExecution
  | limit tif => some (.limit tif)
  | trigger triggerPx tpsl =>
    (decimalValue triggerPx).map fun price =>
      .trigger price (if tpsl = .tp then .takeProfit else .stopLoss)

/-- The terms of an order on the wire, where the size zero is the whole position. -/
def OrderWire.terms (wire : OrderWire) : Option OrderTerms := do
  let size ← decimalValue wire.s
  let limitPrice ← decimalValue wire.p
  let execution ← wire.t.execution
  some
    { assetId := wire.a
      side := if wire.b then .buy else .sell
      size := if size = 0 then none else some size
      limitPrice := limitPrice
      execution := execution
      reduceOnly := wire.r
      cloid := wire.c }

def ExchangeAction.terms : ExchangeAction → Option ActionTerms
  | .order [wire] grouping => wire.terms.map (.order · grouping)
  | .modify oid wire => wire.terms.map (.modify oid)
  | .cancel [wire] => some (.cancel wire.a (.oid wire.o))
  | .cancelByCloid [wire] => some (.cancel wire.asset (.cloid wire.cloid))
  | .updateLeverage asset isCross leverage =>
    some (.updateLeverage asset (if isCross then .cross else .isolated) leverage)
  | _ => none

/-! ### Valid intents -/

structure OrderParts (assetId : ℤ) (size price cloid : String) : Prop where
  assetId : WireNumber assetId 0
  size : PositiveText size
  price : PositiveText price
  cloid : LowerCloid cloid

def CancelTarget.Valid : CancelTarget → Prop
  | .oid orderId => WireNumber orderId 1
  | .cloid text => LowerCloid text

def TradingActionIntent.Valid : TradingActionIntent → Prop
  | marketOrder intent => OrderParts intent.assetId intent.size
      intent.aggressiveLimitPrice intent.cloid
  | limitOrder intent => OrderParts intent.assetId intent.size intent.limitPrice
      intent.cloid
  | reduceOnlyClose intent => OrderParts intent.assetId intent.size
      intent.aggressiveLimitPrice intent.cloid
  | positionTpsl intent => OrderParts intent.assetId intent.size
      intent.aggressiveLimitPrice intent.cloid ∧ PositiveText intent.triggerPrice ∧
        ∀ oid ∈ intent.existingOid, WireNumber oid 1
  | cancel intent => WireNumber intent.assetId 0 ∧ intent.target.Valid
  | bulkCancel _ => False
  | updateLeverage intent => WireNumber intent.assetId 0 ∧
      isSafeInteger intent.leverage ∧ 1 ≤ intent.leverage ∧ intent.leverage ≤ 100

variable {path value cloid size price text : String} {market : ActionMarketRules}
  {input : TradingActionValidationInput} {assetId : ℤ} {intent : TradingActionIntent}
  {validated : ValidatedTradingAction} {viem : Viem}

theorem safeInteger_eq_ok {value minimum result : ℤ} :
    safeInteger value path minimum = .ok result ↔
      WireNumber value minimum ∧ result = value := by
  simp only [safeInteger, except_bind_eq_ok, require_eq_ok]
  constructor
  · rintro ⟨-, hnumber, hresult⟩
    cases hresult
    exact ⟨hnumber, rfl⟩
  · rintro ⟨hnumber, rfl⟩
    exact ⟨(), hnumber, rfl⟩

theorem parseCloid_eq_ok :
    parseCloid value path = .ok cloid ↔
      cloidPattern.test value = true ∧ cloid = asciiLower value := by
  simp only [parseCloid, except_bind_eq_ok, require_eq_ok]
  constructor
  · rintro ⟨-, htest, hresult⟩
    cases hresult
    exact ⟨htest, rfl⟩
  · rintro ⟨htest, rfl⟩
    exact ⟨(), htest, rfl⟩

theorem lowerCloid_of_parseCloid (h : parseCloid value path = .ok cloid) : LowerCloid cloid := by
  obtain ⟨htest, rfl⟩ := parseCloid_eq_ok.mp h
  exact LowerCloid.of_test htest

theorem normalizeSize_spec (h : normalizeSize value market = .ok size) : PositiveText size := by
  simp only [normalizeSize, except_bind_eq_ok] at h
  obtain ⟨normalized, hnormalized, _, -, _, -, hresult⟩ := h
  cases hresult
  exact positiveDecimal_spec hnormalized

theorem normalizePrice_spec (h : normalizePrice value market = .ok price) : PositiveText price := by
  simp only [normalizePrice, except_bind_eq_ok] at h
  obtain ⟨normalized, hnormalized, _, -, _, -, _, -, _, -, hresult⟩ := h
  cases hresult
  exact positiveDecimal_spec hnormalized

theorem normalizedTerms_spec {rawSize rawPrice : String} {notional : ParsedDecimal}
    (h : normalizedTerms input assetId rawSize rawPrice = .ok (size, price, notional)) :
    WireNumber assetId 0 ∧ PositiveText size ∧ PositiveText price := by
  simp only [normalizedTerms, except_bind_eq_ok, safeInteger_eq_ok] at h
  obtain ⟨_, ⟨hasset, -⟩, _, -, _, -, _, hsize, _, hprice, _, -, _, -, hresult⟩ := h
  cases hresult
  exact ⟨hasset, normalizeSize_spec hsize, normalizePrice_spec hprice⟩

theorem validatedAction_intent {notional : Option ParsedDecimal}
    (h : validatedAction input intent notional = .ok validated) : validated.intent = intent := by
  simp only [validatedAction, except_bind_eq_ok] at h
  obtain ⟨_, -, hresult⟩ := h
  cases hresult
  rfl

theorem normalizeTarget_valid {target normal : CancelTarget}
    (h : normalizeTarget target = .ok normal) : normal.Valid := by
  cases target with
  | oid orderId =>
    simp only [normalizeTarget, except_bind_eq_ok, safeInteger_eq_ok] at h
    obtain ⟨_, ⟨hnumber, rfl⟩, hresult⟩ := h
    cases hresult
    exact hnumber
  | cloid text =>
    simp only [normalizeTarget, except_bind_eq_ok] at h
    obtain ⟨_, hcloid, hresult⟩ := h
    cases hresult
    exact lowerCloid_of_parseCloid hcloid

theorem assertExistingOrder_spec {account : ActionAccountRules} {existingOid : Option ℤ} {u : Unit}
    (h : assertExistingOrder account assetId existingOid = .ok u) :
    ∀ oid ∈ existingOid, WireNumber oid 1 := by
  cases existingOid with
  | none => simp
  | some oid =>
    simp only [assertExistingOrder, except_bind_eq_ok, safeInteger_eq_ok] at h
    obtain ⟨_, ⟨hnumber, -⟩, -⟩ := h
    intro other hother
    cases hother
    exact hnumber

theorem validateMarketOrder_valid {intent : MarketOrderIntent}
    (h : validateMarketOrder input intent = .ok validated) : validated.intent.Valid := by
  simp only [validateMarketOrder, except_bind_eq_ok] at h
  obtain ⟨⟨size, price, notional⟩, hterms, _, -, _, -, cloid, hcloid, hvalidated⟩ := h
  obtain ⟨hasset, hsize, hprice⟩ := normalizedTerms_spec hterms
  rw [validatedAction_intent hvalidated]
  exact ⟨hasset, hsize, hprice, lowerCloid_of_parseCloid hcloid⟩

theorem validateLimitOrder_valid {intent : LimitOrderIntent}
    (h : validateLimitOrder input intent = .ok validated) : validated.intent.Valid := by
  simp only [validateLimitOrder, except_bind_eq_ok] at h
  obtain ⟨⟨size, price, notional⟩, hterms, _, -, h⟩ := h
  obtain ⟨hasset, hsize, hprice⟩ := normalizedTerms_spec hterms
  have hrest : ∃ cloid, parseCloid intent.cloid "cloid" = .ok cloid ∧
      validatedAction input (.limitOrder { intent with
        size := size, limitPrice := price, cloid := cloid }) (some notional) =
        .ok validated := by
    split at h
    · simp only [except_bind_eq_ok] at h
      obtain ⟨_, -, _, -, cloid, hcloid, hvalidated⟩ := h
      exact ⟨cloid, hcloid, hvalidated⟩
    · simp only [except_bind_eq_ok] at h
      obtain ⟨_, -, cloid, hcloid, hvalidated⟩ := h
      exact ⟨cloid, hcloid, hvalidated⟩
  obtain ⟨cloid, hcloid, hvalidated⟩ := hrest
  rw [validatedAction_intent hvalidated]
  exact ⟨hasset, hsize, hprice, lowerCloid_of_parseCloid hcloid⟩

theorem validateReduceOnlyClose_valid {intent : ReduceOnlyCloseIntent}
    (h : validateReduceOnlyClose input intent = .ok validated) : validated.intent.Valid := by
  simp only [validateReduceOnlyClose, except_bind_eq_ok] at h
  obtain ⟨⟨size, price, notional⟩, hterms, _, -, _, -, _, -, cloid, hcloid, hvalidated⟩ := h
  obtain ⟨hasset, hsize, hprice⟩ := normalizedTerms_spec hterms
  rw [validatedAction_intent hvalidated]
  exact ⟨hasset, hsize, hprice, lowerCloid_of_parseCloid hcloid⟩

theorem validatePositionTpsl_valid {intent : PositionTpslIntent}
    (h : validatePositionTpsl input intent = .ok validated) : validated.intent.Valid := by
  simp only [validatePositionTpsl, except_bind_eq_ok, safeInteger_eq_ok] at h
  obtain ⟨_, ⟨hasset, -⟩, _, -, _, -, size, hsize, triggerPrice, htrigger, price, hprice,
    _, -, _, -, _, -, _, -, _, -, _, -, _, -, _, -, _, hexisting, cloid, hcloid, _, -,
    hvalidated⟩ := h
  rw [validatedAction_intent hvalidated]
  exact ⟨⟨hasset, normalizeSize_spec hsize, normalizePrice_spec hprice,
    lowerCloid_of_parseCloid hcloid⟩, normalizePrice_spec htrigger,
    assertExistingOrder_spec hexisting⟩

theorem validateCancel_valid {intent : CancelIntent}
    (h : validateCancel input intent = .ok validated) : validated.intent.Valid := by
  simp only [validateCancel, except_bind_eq_ok, safeInteger_eq_ok] at h
  obtain ⟨_, ⟨hasset, -⟩, _, -, _, -, _, -, target, htarget, _, -, _, -, hvalidated⟩ := h
  rw [validatedAction_intent hvalidated]
  exact ⟨hasset, normalizeTarget_valid htarget⟩

theorem validateLeverage_valid {intent : UpdateLeverageIntent}
    (h : validateLeverage input intent = .ok validated) : validated.intent.Valid := by
  simp only [validateLeverage, except_bind_eq_ok, safeInteger_eq_ok, require_eq_ok] at h
  obtain ⟨_, ⟨hasset, -⟩, _, -, _, -, _, -, _, ⟨hsafe, hleast, maximum, -, -, hmost⟩, _,
    -, hvalidated⟩ := h
  rw [validatedAction_intent hvalidated]
  exact ⟨hasset, hsafe, hleast, by omega⟩

theorem validateTradingAction_valid (h : validateTradingAction viem input = .ok validated) :
    validated.intent.Valid := by
  simp only [validateTradingAction, except_bind_eq_ok] at h
  obtain ⟨_, -, h⟩ := h
  split at h
  · exact validateMarketOrder_valid h
  · exact validateLimitOrder_valid h
  · exact validateReduceOnlyClose_valid h
  · exact validatePositionTpsl_valid h
  · exact validateCancel_valid h
  · exact validateLeverage_valid h
  · simp [invalid] at h

/-! ### Valid intents are built -/

theorem zeroDecimal_eq_false {value : ℚ} (h : decimalValue text = some value) (hne : value ≠ 0) :
    zeroDecimal text = false := by
  have hofList : text = String.ofList text.toList := String.ofList_toList.symm
  by_contra hzero
  rw [Bool.not_eq_false] at hzero
  unfold zeroDecimal at hzero
  split at hzero
  · rename_i hlist
    rw [hofList, hlist, decimalValue, readDecimal_whole (by decide)] at h
    cases h
    exact hne (by simp [DecimalText.value, DecimalText.coefficient, digitsValue, Nat.ofDigitChars])
  · rename_i zeros hlist
    have hzeros : zeros = List.replicate zeros.length '0' := by
      refine List.eq_replicate_of_mem ?_
      simpa using hzero
    cases hlength : zeros with
    | nil =>
      have hnone : decimalValue (String.ofList ['0', '.']) = none := by decide
      rw [hofList, hlist, hlength, hnone] at h
      cases h
    | cons c rest =>
      have hdigits : ∀ c ∈ zeros, c.isDigit = true := by
        intro c hc
        rw [hzeros] at hc
        rw [List.eq_of_mem_replicate hc]
        decide
      have hshape : ['0'] ++ '.' :: zeros = '0' :: '.' :: zeros := rfl
      rw [hofList, hlist, ← hshape, decimalValue,
        readDecimal_point (by decide) (by simp [hlength]) hdigits] at h
      cases h
      refine hne ?_
      have hreplicate : ['0'] ++ zeros =
          List.replicate (zeros.length + 1) '0' := by
        rw [List.replicate_succ, ← hzeros]
        rfl
      simp [DecimalText.value, DecimalText.coefficient, hreplicate]
  · cases hzero

theorem PositiveText.canonical (h : PositiveText text) : PositiveDecimalText text := by
  obtain ⟨parts, hread, hsign, hlast⟩ := h.read
  obtain ⟨value, hvalue, hpositive⟩ := h.value
  refine ⟨?_, zeroDecimal_eq_false hvalue (ne_of_gt hpositive)⟩
  simp only [canonicalPositiveDecimal, hread, hsign, Bool.not_false, Bool.true_and, bne_iff_ne]
  exact hlast

theorem validatePositiveDecimal_eq (h : PositiveText text) :
    validatePositiveDecimal text path = .ok text := by
  simp only [validatePositiveDecimal, except_bind_eq_ok, require_eq_ok]
  exact ⟨(), h.canonical, rfl⟩

theorem validateAssetId_eq (h : WireNumber assetId 0) :
    validateAssetId assetId path = .ok assetId := by
  simp only [validateAssetId, except_bind_eq_ok, require_eq_ok]
  exact ⟨(), h, rfl⟩

theorem validateOid_eq {oid : ℤ} (h : WireNumber oid 1) : validateOid oid path = .ok oid := by
  simp only [validateOid, except_bind_eq_ok, require_eq_ok]
  exact ⟨(), ⟨h.1, Int.le_trans (by decide) h.2⟩, rfl⟩

theorem parseCloid_eq (h : LowerCloid cloid) : parseCloid cloid path = .ok cloid :=
  parseCloid_eq_ok.mpr ⟨h.1, h.2.symm⟩

theorem orderWire_spec
    (h : OrderParts assetId size price cloid) (side : OrderSide) (reduceOnly : Bool)
    (tif : LimitTimeInForce) :
    ∃ wire, orderWire assetId side price size reduceOnly tif cloid = .ok wire ∧
      wire.WellFormed .limit ∧
      wire.terms = sizedTerms assetId side size price reduceOnly tif cloid ∧
      wire.terms.isSome := by
  refine ⟨⟨assetId, side == .buy, price, size, reduceOnly, .limit tif, cloid⟩, ?_, ?_, ?_, ?_⟩
  · simp only [orderWire, validateAssetId_eq h.assetId,
      validatePositiveDecimal_eq h.price, validatePositiveDecimal_eq h.size, parseCloid_eq h.cloid]
    rfl
  · exact ⟨h.assetId, h.price.canonical, h.size.canonical, trivial, h.cloid⟩
  · obtain ⟨sizeValue, hsize, hpositive⟩ := h.size.value
    obtain ⟨limitPrice, hprice, -⟩ := h.price.value
    simp only [OrderWire.terms, sizedTerms, hsize, hprice, OrderTypeWire.execution,
      Option.bind_eq_bind, Option.bind_some, if_neg (ne_of_gt hpositive)]
    cases side <;> rfl
  · obtain ⟨sizeValue, hsize, -⟩ := h.size.value
    obtain ⟨limitPrice, hprice, -⟩ := h.price.value
    simp only [OrderWire.terms, hsize, hprice, OrderTypeWire.execution,
      Option.bind_eq_bind, Option.bind_some, Option.isSome_some]

theorem positionTpslOrderWire_spec {intent : PositionTpslIntent}
    (h : OrderParts intent.assetId intent.size intent.aggressiveLimitPrice
      intent.cloid) (htrigger : PositiveText intent.triggerPrice) :
    ∃ wire, positionTpslOrderWire intent = .ok wire ∧ wire.WellFormed .trigger ∧
      wire.terms = intent.terms ∧ wire.terms.isSome := by
  have hsentinel : canonicalPositiveDecimal "0" = true ∧
      zeroDecimal "0" = decide (OrderWireKind.trigger = .trigger) := by decide
  obtain ⟨limitPrice, hprice, -⟩ := h.price.value
  obtain ⟨triggerPrice, htriggerValue, -⟩ := htrigger.value
  refine ⟨⟨intent.assetId, intent.side == .buy, intent.aggressiveLimitPrice, "0", true,
    .trigger intent.triggerPrice
      (if intent.triggerKind = .takeProfit then .tp else .sl), intent.cloid⟩, ?_, ?_, ?_, ?_⟩
  · simp only [positionTpslOrderWire, validateAssetId_eq h.assetId,
      validatePositiveDecimal_eq h.price, validatePositiveDecimal_eq h.size,
      validatePositiveDecimal_eq htrigger, parseCloid_eq h.cloid]
    rfl
  · exact ⟨h.assetId, h.price.canonical, hsentinel, ⟨rfl, htrigger.canonical⟩, h.cloid⟩
  · simp only [OrderWire.terms, PositionTpslIntent.terms, decimalValue_zero, hprice,
      OrderTypeWire.execution, htriggerValue, Option.map_some, Option.bind_eq_bind,
      Option.bind_some, if_true]
    cases intent.side <;> cases intent.triggerKind <;> rfl
  · simp only [OrderWire.terms, decimalValue_zero, hprice, OrderTypeWire.execution,
      htriggerValue, Option.map_some, Option.bind_eq_bind, Option.bind_some, Option.isSome_some]

/-- **A valid intent is built**, as an action the codec writes, with the terms of the
intent. -/
theorem buildExchangeAction_spec (h : intent.Valid) :
    ∃ action, buildExchangeAction intent = .ok action ∧ action.WellFormed ∧
      action.terms = intent.terms ∧ action.terms.isSome := by
  cases intent with
  | marketOrder intent =>
    obtain ⟨wire, hwire, hwellFormed, hterms, hsome⟩ :=
      orderWire_spec h intent.side false .ioc
    refine ⟨.order [wire] .na, ?_, ⟨wire, rfl, hwellFormed⟩, ?_, ?_⟩
    · simp only [buildExchangeAction, buildMarketOrderAction, hwire]
      rfl
    · simp only [ExchangeAction.terms, TradingActionIntent.terms, hterms]
    · rwa [ExchangeAction.terms, Option.isSome_map]
  | limitOrder intent =>
    obtain ⟨wire, hwire, hwellFormed, hterms, hsome⟩ :=
      orderWire_spec h intent.side intent.reduceOnly intent.timeInForce
    refine ⟨.order [wire] .na, ?_, ⟨wire, rfl, hwellFormed⟩, ?_, ?_⟩
    · simp only [buildExchangeAction, buildLimitOrderAction, hwire]
      rfl
    · simp only [ExchangeAction.terms, TradingActionIntent.terms, hterms]
    · rwa [ExchangeAction.terms, Option.isSome_map]
  | reduceOnlyClose intent =>
    obtain ⟨wire, hwire, hwellFormed, hterms, hsome⟩ :=
      orderWire_spec h intent.side true .ioc
    refine ⟨.order [wire] .na, ?_, ⟨wire, rfl, hwellFormed⟩, ?_, ?_⟩
    · simp only [buildExchangeAction, buildReduceOnlyCloseAction, hwire]
      rfl
    · simp only [ExchangeAction.terms, TradingActionIntent.terms, hterms]
    · rwa [ExchangeAction.terms, Option.isSome_map]
  | positionTpsl intent =>
    obtain ⟨hparts, htrigger, hexisting⟩ := h
    obtain ⟨wire, hwire, hwellFormed, hterms, hsome⟩ :=
      positionTpslOrderWire_spec hparts htrigger
    cases hoid : intent.existingOid with
    | none =>
      refine ⟨.order [wire] .positionTpsl, ?_, ⟨wire, rfl, hwellFormed⟩, ?_, ?_⟩
      · simp only [buildExchangeAction, buildPositionTpslAction, hwire, hoid]
        rfl
      · simp only [ExchangeAction.terms, TradingActionIntent.terms, hterms, hoid]
      · rwa [ExchangeAction.terms, Option.isSome_map]
    | some oid =>
      have hnumber := hexisting oid hoid
      refine ⟨.modify oid wire, ?_, ⟨hnumber, hwellFormed⟩, ?_, ?_⟩
      · simp only [buildExchangeAction, buildPositionTpslAction, hwire, hoid,
          validateOid_eq hnumber]
        rfl
      · simp only [ExchangeAction.terms, TradingActionIntent.terms, hterms, hoid]
      · rwa [ExchangeAction.terms, Option.isSome_map]
  | cancel intent =>
    obtain ⟨hasset, htarget⟩ := h
    have hcount : 1 ≤ 1 ∧ 1 ≤ maxBulkCancels := by decide
    cases hkind : intent.target with
    | oid orderId =>
      rw [hkind] at htarget
      have hnumber : WireNumber orderId 0 :=
        ⟨htarget.1, Int.le_trans (by decide) htarget.2⟩
      refine ⟨.cancel [⟨intent.assetId, orderId⟩], ?_, ⟨hcount, ?_⟩, ?_, rfl⟩
      · simp only [buildExchangeAction, buildCancelAction, hkind,
          validateAssetId_eq hasset, validateOid_eq htarget]
        rfl
      · intro cancel hcancel
        obtain rfl := List.mem_singleton.mp hcancel
        exact ⟨hasset, hnumber⟩
      · simp only [ExchangeAction.terms, TradingActionIntent.terms, hkind]
    | cloid text =>
      rw [hkind] at htarget
      refine ⟨.cancelByCloid [⟨intent.assetId, text⟩], ?_, ⟨hcount, ?_⟩, ?_, rfl⟩
      · simp only [buildExchangeAction, buildCancelAction, hkind,
          validateAssetId_eq hasset, parseCloid_eq htarget]
        rfl
      · intro cancel hcancel
        obtain rfl := List.mem_singleton.mp hcancel
        exact ⟨hasset, htarget⟩
      · simp only [ExchangeAction.terms, TradingActionIntent.terms, hkind]
  | bulkCancel cancels => exact h.elim
  | updateLeverage intent =>
    obtain ⟨hasset, hleverage⟩ := h
    refine ⟨.updateLeverage intent.assetId (intent.marginMode == .cross)
      intent.leverage, ?_, ⟨hasset, hleverage⟩, ?_, rfl⟩
    · simp only [buildExchangeAction, buildUpdateLeverageAction,
        require_of hleverage, validateAssetId_eq hasset]
      rfl
    · simp only [ExchangeAction.terms, TradingActionIntent.terms]
      cases intent.marginMode <;> rfl

/-! ### Built actions are encoded -/

def encodedAs (viem : Viem) (encode : MessagePack) (action : ExchangeAction)
    (allocation : NonceAllocation) (vaultAddress : Option String) : EncodedL1Action where
  actionBytes := encode action.toJson
  actionHash := viem.keccak256Bytes (encode action.toJson ++
    bigEndian 8 allocation.nonce.toNat ++ vaultBytes vaultAddress ++
    0 :: bigEndian 8 allocation.expiresAfterMs.toNat)
  nonce := allocation.nonce
  vaultAddress := vaultAddress
  expiresAfter := some allocation.expiresAfterMs

/-- A well-formed action is encoded as it is, with the nonce and the expiry that were allocated
for it and the vault's address in checksum case, and these four are what is hashed. -/
theorem encodeL1Action_spec (encode : MessagePack)
    {action : ExchangeAction} (haction : action.WellFormed) {clock : ClockGateInput}
    {lastIssuedNonce : Option ℤ} {allocation : NonceAllocation}
    (hallocated : allocateNonce clock lastIssuedNonce = .ok allocation)
    {vaultAddress : Option String}
    (hvault : ∀ address ∈ vaultAddress, (viem.getAddress address).isSome) :
    encodeL1Action viem encode
      { action := action.toJson
        nonce := allocation.nonce
        vaultAddress := vaultAddress
        expiresAfter := some allocation.expiresAfterMs } =
      .ok (encodedAs viem encode action allocation (vaultAddress.bind viem.getAddress)) := by
  have hspec := allocateNonce_spec hallocated
  have hwindow := hspec.window
  have hexpirySafe := hspec.expirySafe
  have hwall := hspec.wall_nonneg
  have hwallLe := hspec.wall_le
  have hnonce : isSafeInteger allocation.nonce ∧ 0 ≤ allocation.nonce := by
    unfold isSafeInteger at *
    omega
  have hexpiry : isSafeInteger allocation.expiresAfterMs ∧
      0 ≤ allocation.expiresAfterMs := ⟨hexpirySafe, by omega⟩
  have hnormal : normalizeVaultAddress viem vaultAddress =
      .ok (vaultAddress.bind viem.getAddress) := by
    cases vaultAddress with
    | none => rfl
    | some address =>
      obtain ⟨checksummed, haddress⟩ := Option.isSome_iff_exists.mp (hvault address rfl)
      simp only [normalizeVaultAddress, haddress, Option.bind_some]
      rfl
  have hvalid : validateExpiry allocation.nonce (some allocation.expiresAfterMs) =
      .ok (some allocation.expiresAfterMs) := by
    simp only [validateExpiry, except_bind_eq_ok, uint64Bytes_eq_ok, require_eq_ok]
    exact ⟨_, ⟨hexpiry, rfl⟩, (), hwindow, rfl⟩
  have hbytes : expiryBytes (some allocation.expiresAfterMs) =
      .ok (0 :: bigEndian 8 allocation.expiresAfterMs.toNat) := by
    simp only [expiryBytes, except_bind_eq_ok, uint64Bytes_eq_ok]
    exact ⟨_, ⟨hexpiry, rfl⟩, rfl⟩
  simp only [encodeL1Action, l1Preimage, except_bind_eq_ok, uint64Bytes_eq_ok]
  exact ⟨_, ⟨_, ⟨hnonce, rfl⟩, action, canonicalizeExchangeAction_toJson haction,
    _, hnormal, _, hvalid, _, hbytes, rfl⟩, rfl⟩

/-- **Validated intents are built and encoded faithfully.** Every intent the
validator returns is built, with the terms of the intent; and with every nonce and expiry
that are allocated and every vault address that is one, the bytes of that very action, the
nonce, the vault and the expiry are encoded, and hashed in this order. -/
theorem validated_intents_encode {viem : Viem} {input : TradingActionValidationInput}
    {validated : ValidatedTradingAction} (h : validateTradingAction viem input = .ok validated) :
    ∃ action terms, buildExchangeAction validated.intent = .ok action ∧
      action.terms = some terms ∧ validated.intent.terms = some terms ∧
      ∀ (encode : MessagePack) (clock : ClockGateInput) (lastIssuedNonce : Option ℤ)
        (allocation : NonceAllocation) (vaultAddress : Option String),
        allocateNonce clock lastIssuedNonce = .ok allocation →
        (∀ address ∈ vaultAddress, (viem.getAddress address).isSome) →
        encodeL1Action viem encode
          { action := action.toJson
            nonce := allocation.nonce
            vaultAddress := vaultAddress
            expiresAfter := some allocation.expiresAfterMs } =
          .ok (encodedAs viem encode action allocation (vaultAddress.bind viem.getAddress)) := by
  obtain ⟨action, hbuild, hwellFormed, hterms, hsome⟩ :=
    buildExchangeAction_spec (validateTradingAction_valid h)
  obtain ⟨terms, hsome⟩ := Option.isSome_iff_exists.mp hsome
  refine ⟨action, terms, hbuild, hsome, hterms ▸ hsome, ?_⟩
  intro encode clock lastIssuedNonce allocation vaultAddress hallocated hvault
  exact encodeL1Action_spec encode hwellFormed hallocated hvault

/-! ### A limit order, from its text to the wire -/

def digitViem : Viem where
  getAddress address := if addressPattern.test address then some address else none
  keccak256 _ := ""
  keccak256Bytes _ := ""

def limitInput : TradingActionValidationInput where
  context :=
    { network := .testnet
      masterAccount := "0x1111111111111111111111111111111111111111"
      targetAccount := "0x1111111111111111111111111111111111111111"
      capturedContextEpoch := 1
      currentContextEpoch := 1
      currentNetwork := .testnet
      currentMasterAccount := "0x1111111111111111111111111111111111111111"
      currentTargetAccount := "0x1111111111111111111111111111111111111111"
      reviewedAtMs := 1000
      reviewExpiresAtMs := 2000
      nowMs := 1500 }
  market :=
    { canonicalId := "BTC"
      metadataFingerprint := "perp:3"
      orderAssetId := 3
      family := .perp
      lifecycle := .active
      orderAvailability := .enabled
      sizeDecimals := some 5
      pricePrecision := some ⟨5, 1⟩
      maxLeverage := some 40
      onlyIsolated := none
      referencePrice := some "60000"
      minimumNotional := some "10" }
  account :=
    { availableMargin := "1000"
      leverage := some 10
      marginMode := some .cross
      positionSize := none
      openOrders := none
      version := 1 }
  controls := { slippageBps := none, trigger := none }
  intent := .limitOrder
    { assetId := 3
      side := .buy
      size := "0.0100"
      limitPrice := "59999.0"
      timeInForce := .gtc
      reduceOnly := false
      cloid := "0xABCDEF0123456789ABCDEF0123456789" }

def limitValidated : ValidatedTradingAction where
  intent := .limitOrder
    { assetId := 3
      side := .buy
      size := "0.01"
      limitPrice := "59999"
      timeInForce := .gtc
      reduceOnly := false
      cloid := "0xabcdef0123456789abcdef0123456789" }
  notional := some "599.99"
  accountStateVersion := 1
  marketCanonicalId := "BTC"

theorem validated_intents_encode_limit :
    ∃ action terms, buildExchangeAction limitValidated.intent = .ok action ∧
      action.terms = some terms ∧ limitValidated.intent.terms = some terms ∧
      (encodeL1Action digitViem Json.messagePack
        { action := action.toJson
          nonce := 1700000000000
          vaultAddress := none
          expiresAfter := some 1700000015000 }).map EncodedL1Action.actionBytes =
        .ok (Json.messagePack action.toJson) := by
  obtain ⟨action, terms, hbuild, haction, hintent, hencode⟩ :=
    validated_intents_encode (show validateTradingAction digitViem limitInput =
      .ok limitValidated by decide)
  refine ⟨action, terms, hbuild, haction, hintent, ?_⟩
  rw [hencode Json.messagePack ⟨1700000000000, 500, 1700000000000, 500, none⟩ none
    ⟨1700000000000, 1700000015000, 1700000000000⟩ none (by decide) (by simp)]
  rfl

end HyperTrader
