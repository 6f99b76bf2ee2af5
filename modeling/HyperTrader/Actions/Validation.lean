import HyperTrader.Actions.AggressivePrice
import HyperTrader.Actions.Decimal
import HyperTrader.Signing.Binding

/-!
# The action validator

`validateTradingAction` checks an intent against the context, the market, the
account and the controls it was reviewed with, and returns it in normal form.
Each check names the field it refuses.
-/

namespace HyperTrader

open Library

def maxSlippageBps : ℤ := 500

def minimumOrderNotionalMessage : String := "Order must have minimum value of $10."

structure ActionValidationContext where
  network : HyperliquidNetwork
  masterAccount : String
  targetAccount : String
  capturedContextEpoch : ℤ
  currentContextEpoch : ℤ
  currentNetwork : HyperliquidNetwork
  currentMasterAccount : String
  currentTargetAccount : String
  reviewedAtMs : ℤ
  reviewExpiresAtMs : ℤ
  nowMs : ℤ
  deriving DecidableEq

inductive MarketFamily where
  | perp
  | spot
  | outcome
  deriving DecidableEq

inductive MarketLifecycle where
  | active
  | delisted
  deriving DecidableEq

inductive OrderAvailability where
  | enabled
  | browseOnly
  deriving DecidableEq

structure ActionMarketRules where
  canonicalId : String
  metadataFingerprint : String
  orderAssetId : ℤ
  family : MarketFamily
  lifecycle : MarketLifecycle
  orderAvailability : OrderAvailability
  sizeDecimals : Option ℤ
  pricePrecision : Option PricePrecisionInputs
  maxLeverage : Option ℤ
  onlyIsolated : Option Bool
  referencePrice : Option String
  minimumNotional : Option String
  deriving DecidableEq

structure CurrentOpenOrderIdentity where
  assetId : ℤ
  oid : Option ℤ
  cloid : Option String
  deriving DecidableEq

structure ActionAccountRules where
  availableMargin : String
  leverage : Option ℤ
  marginMode : Option MarginMode
  positionSize : Option String
  openOrders : Option (List CurrentOpenOrderIdentity)
  version : ℤ
  deriving DecidableEq

inductive TriggerDirection where
  | above
  | below
  deriving DecidableEq

def TriggerDirection.text : TriggerDirection → String
  | above => "above"
  | below => "below"

structure TriggerControl where
  price : String
  direction : TriggerDirection
  deriving DecidableEq

structure ActionControls where
  slippageBps : Option ℤ
  trigger : Option TriggerControl
  deriving DecidableEq

def ActionControls.toJson (controls : ActionControls) : Json :=
  .object [("slippageBps", optionalNumber controls.slippageBps),
    ("trigger", controls.trigger.elim .null fun trigger =>
      .object [("price", .string trigger.price), ("direction", .string trigger.direction.text)])]

structure TradingActionValidationInput where
  context : ActionValidationContext
  market : ActionMarketRules
  account : ActionAccountRules
  controls : ActionControls
  intent : TradingActionIntent
  deriving DecidableEq

structure ValidatedTradingAction where
  intent : TradingActionIntent
  notional : Option String
  accountStateVersion : ℤ
  marketCanonicalId : String
  deriving DecidableEq

def invalid {α : Type} (path message : String) : Outcome α :=
  .error (.validation path message)

def safeInteger (value : ℤ) (path : String) (minimum : ℤ) : Outcome ℤ := do
  require (isSafeInteger value ∧ minimum ≤ value)
    (.validation path ("expected a safe integer of at least " ++ toString minimum))
  pure value

def present {α : Type} (value : Option α) (path message : String) : Outcome α :=
  value.elim (invalid path message) .ok

def parseCloid (value path : String) : Outcome String := do
  require (cloidPattern.test value = true)
    (.validation path "expected a 128-bit 0x-prefixed client order ID")
  pure (asciiLower value)

def normalizeContextAddress (viem : Viem) (value path : String) : Outcome String :=
  (viem.getAddress value).elim
    (invalid path "expected a 20-byte Ethereum address")
    fun checksummed => .ok (asciiLower checksummed)

def assertCurrentContext (viem : Viem) (context : ActionValidationContext) :
    Outcome Unit := do
  assertTradingActionCapability context.network
  let _ ← safeInteger context.capturedContextEpoch "context.capturedContextEpoch" 0
  let _ ← safeInteger context.currentContextEpoch "context.currentContextEpoch" 0
  let _ ← safeInteger context.reviewedAtMs "context.reviewedAtMs" 0
  let _ ← safeInteger context.reviewExpiresAtMs "context.reviewExpiresAtMs" 0
  let _ ← safeInteger context.nowMs "context.nowMs" 0
  require (context.currentNetwork = context.network)
    (.validation "context.network" "the active network changed after review")
  require (context.capturedContextEpoch = context.currentContextEpoch)
    (.validation "context.epoch" "the active trading context changed after review")
  let master ← normalizeContextAddress viem context.masterAccount
    "context.masterAccount"
  let target ← normalizeContextAddress viem context.targetAccount
    "context.targetAccount"
  let currentMaster ← normalizeContextAddress viem context.currentMasterAccount
    "context.currentMasterAccount"
  require (currentMaster = master)
    (.validation "context.masterAccount" "the active master account changed after review")
  let currentTarget ← normalizeContextAddress viem context.currentTargetAccount
    "context.currentTargetAccount"
  require (currentTarget = target)
    (.validation "context.targetAccount" "the active target account changed after review")
  require (context.reviewedAtMs < context.reviewExpiresAtMs ∧
      context.nowMs < context.reviewExpiresAtMs)
    (.validation "context.review" "the reviewed action expired and must be reviewed again")

/-- Between 1 and 256 letters, digits, colons, points, underscores, slashes and
dashes. -/
def canonicalIdPattern : TextPattern where
  lead := ""
  digit byte := isAlphanumeric byte || inRange ':' ':' byte ||
    inRange '.' '.' byte || inRange '_' '_' byte || inRange '/' '/' byte ||
    inRange '-' '-' byte
  least := 1
  most := 256

def hasControlCharacter (value : String) : Bool :=
  value.toList.any fun c => decide (c.toNat < 32) || decide (c.toNat = 127)

def pricePrecisionForSizeDecimals (family : MarketFamily) (sizeDecimals : ℤ) :
    Option PricePrecisionInputs :=
  let maximum : ℤ := if family = .perp then 6 else 8
  if sizeDecimals < 0 ∨ maximum < sizeDecimals then none
  else some
    { maxSignificantFigures := 5
      maxDecimalPlaces := maximum - sizeDecimals }

def precisionMatches (market precision : PricePrecisionInputs) : Prop :=
  market.maxSignificantFigures = precision.maxSignificantFigures ∧
    isSafeInteger market.maxDecimalPlaces ∧ 0 ≤ market.maxDecimalPlaces ∧
    market.maxDecimalPlaces ≤ precision.maxDecimalPlaces

instance (market precision : PricePrecisionInputs) :
    Decidable (precisionMatches market precision) :=
  inferInstanceAs (Decidable (_ ∧ _))

def assertTradableMarket (market : ActionMarketRules) (assetId : ℤ) :
    Outcome Unit := do
  require (canonicalIdPattern.test market.canonicalId = true)
    (.validation "market.canonicalId" "expected a bounded canonical market identity")
  require (1 ≤ utf16Length market.metadataFingerprint ∧
      utf16Length market.metadataFingerprint ≤ 2048 ∧
      hasControlCharacter market.metadataFingerprint = false)
    (.validation "market.metadataFingerprint" "expected a bounded metadata fingerprint")
  require (market.lifecycle = .active ∧ market.orderAvailability = .enabled)
    (.validation "market.tradability" "the current market is not available for trading")
  require (market.family ≠ .outcome)
    (.validation "market.family" "outcome trading is browse-only in this build")
  let orderAssetId ← safeInteger market.orderAssetId "market.orderAssetId" 0
  require (orderAssetId = assetId)
    (.validation "intent.assetId" "the action asset does not match the current market")
  let unavailable := "current precision metadata is unavailable"
  let sizeDecimals ← present market.sizeDecimals "market.precision" unavailable
  let pricePrecision ← present market.pricePrecision "market.precision" unavailable
  let sizeDecimals ← safeInteger sizeDecimals "market.sizeDecimals" 0
  let mismatch := "precision metadata does not match the current market family"
  let expectedPrecision ← present
    (pricePrecisionForSizeDecimals market.family sizeDecimals)
    "market.pricePrecision" mismatch
  require (precisionMatches pricePrecision expectedPrecision)
    (.validation "market.pricePrecision" mismatch)

def normalizeSize (value : String) (market : ActionMarketRules) :
    Outcome String := do
  let normalized ← positiveDecimal value "intent.size"
  let parsed ← parseDecimal normalized "intent.size"
  require (∃ sizeDecimals ∈ market.sizeDecimals, (parsed.scale : ℤ) ≤ sizeDecimals)
    (.validation "intent.size" "size exceeds the current market precision")
  pure normalized

def normalizePrice (value : String) (market : ActionMarketRules) :
    Outcome String := do
  let normalized ← positiveDecimal value "intent.price"
  let parsed ← parseDecimal normalized "intent.price"
  let places := "price exceeds the current decimal-place limit"
  let precision ← present market.pricePrecision "intent.price" places
  require ((parsed.scale : ℤ) ≤ precision.maxDecimalPlaces)
    (.validation "intent.price" places)
  require (parsed.scale = 0 ∨ (significantDigits parsed : ℤ) ≤ precision.maxSignificantFigures)
    (.validation "intent.price" "price exceeds the current significant-figure limit")
  pure normalized

def reviewedSlippage (controls : ActionControls) : Outcome ℤ := do
  let message := "expected whole basis points between 0 and " ++
    toString maxSlippageBps
  let bps ← present controls.slippageBps "controls.slippageBps" message
  require (isSafeInteger bps ∧ 0 ≤ bps ∧ bps ≤ maxSlippageBps)
    (.validation "controls.slippageBps" message)
  pure bps

def insideSlippage (side : OrderSide) (bps : ℤ) (aggressive base : ParsedDecimal) : Prop :=
  let multiplier : ParsedDecimal := ⟨slippageFactor side bps, 0⟩
  let left := multiplyDecimal aggressive ⟨10000, 0⟩
  let right := multiplyDecimal base multiplier
  match side with
  | .buy => compareDecimal left right ≠ .gt
  | .sell => compareDecimal left right ≠ .lt

instance (side : OrderSide) (bps : ℤ) (aggressive base : ParsedDecimal) :
    Decidable (insideSlippage side bps aggressive base) := by
  unfold insideSlippage
  cases side <;> exact inferInstance

def requiredReference (market : ActionMarketRules) : Outcome ParsedDecimal := do
  let referencePrice ← present market.referencePrice "market.referencePrice"
    "a current reference price is required"
  let positive ← positiveDecimal referencePrice "market.referencePrice"
  parseDecimal positive "market.referencePrice"

def assertSlippage (input : TradingActionValidationInput) (side : OrderSide)
    (aggressivePrice : String) : Outcome Unit := do
  let bps ← reviewedSlippage input.controls
  let referencePrice ← present input.market.referencePrice
    "market.referencePrice" "a current reference price is required"
  let aggressive ← parseDecimal aggressivePrice "intent.price"
  let positive ← positiveDecimal referencePrice "market.referencePrice"
  let reference ← parseDecimal positive "market.referencePrice"
  require (insideSlippage side bps aggressive reference)
    (.validation "intent.price" "aggressive price exceeds the reviewed slippage bound")

def positionSize (account : ActionAccountRules) : Outcome ParsedDecimal :=
  parseDecimal (account.positionSize.getD "0") "account.positionSize"

def assertReduceOnly (input : TradingActionValidationInput) (side : OrderSide)
    (size : String) (requireFullClose : Bool) : Outcome Unit := do
  require (input.market.family = .perp)
    (.validation "intent.reduceOnly" "reduce-only actions require a perpetual market")
  let position ← positionSize input.account
  require (position.coefficient ≠ 0)
    (.validation "account.positionSize" "there is no position to reduce")
  let reducingSide : OrderSide := if 0 < position.coefficient then .sell else .buy
  require (side = reducingSide)
    (.validation "intent.side" "reduce-only side would increase or reverse the position")
  let absolutePosition : ParsedDecimal :=
    { coefficient := position.coefficient.natAbs, scale := position.scale }
  let requested ← parseDecimal size "intent.size"
  let comparison := compareDecimal requested absolutePosition
  require (comparison ≠ .gt ∧ (requireFullClose = true → comparison = .eq))
    (.validation "intent.size" (if requireFullClose then "a close must use the full position size"
      else "reduce-only size exceeds the current position"))

def assertMinimumNotional (market : ActionMarketRules) (notional : ParsedDecimal) : Outcome Unit :=
  match market.minimumNotional with
  | none => pure ()
  | some minimum => do
      let positive ← positiveDecimal minimum "market.minimumNotional"
      let parsed ← parseDecimal positive "market.minimumNotional"
      require (compareDecimal notional parsed ≠ .lt)
        (.validation "intent.notional" minimumOrderNotionalMessage)

def assertMargin (input : TradingActionValidationInput) (notional : ParsedDecimal)
    (reduceOnly : Bool) : Outcome Unit :=
  if reduceOnly then pure ()
  else do
    assertMinimumNotional input.market notional
    let leverage ← present
      (if input.market.family = .spot then some 1 else input.account.leverage)
      "account.leverage" "current leverage is unavailable"
    require (isSafeInteger leverage ∧ 1 ≤ leverage)
      (.validation "account.leverage" "current leverage is unavailable")
    let exceeds := "leverage exceeds the current market maximum"
    let maxLeverage ← present
      (if input.market.family = .spot then some 1 else input.market.maxLeverage)
      "account.leverage" exceeds
    require (isSafeInteger maxLeverage ∧ leverage ≤ maxLeverage)
      (.validation "account.leverage" exceeds)
    require (input.market.onlyIsolated = some true → input.account.marginMode = some .isolated)
      (.validation "account.marginMode" "this market requires isolated margin")
    let normalized ← normalizeDecimal input.account.availableMargin
      "account.availableMargin"
    let available ← parseDecimal normalized "account.availableMargin"
    let leveragedAvailable := multiplyDecimal available ⟨leverage, 0⟩
    require (compareDecimal notional leveragedAvailable ≠ .gt)
      (.validation "account.availableMargin" "insufficient current margin for this action")

/-- The action that has passed its checks, against the account and the market it
passed them with. -/
def validatedAction (input : TradingActionValidationInput)
    (intent : TradingActionIntent) (notional : Option ParsedDecimal) :
    Outcome ValidatedTradingAction := do
  let version ← safeInteger input.account.version "account.version" 0
  pure
    { intent := intent
      notional := notional.map formatDecimal
      accountStateVersion := version
      marketCanonicalId := input.market.canonicalId }

def assertNoTrigger (controls : ActionControls) : Outcome Unit :=
  match controls.trigger with
  | none => pure ()
  | some trigger => do
      let _ ← positiveDecimal trigger.price "controls.trigger.price"
      invalid "controls.trigger"
        "trigger orders are not encoded by this action version"

def normalizedTerms (input : TradingActionValidationInput) (assetId : ℤ)
    (rawSize rawPrice : String) : Outcome (String × String × ParsedDecimal) := do
  let assetId ← safeInteger assetId "intent.assetId" 0
  assertTradableMarket input.market assetId
  assertNoTrigger input.controls
  let size ← normalizeSize rawSize input.market
  let price ← normalizePrice rawPrice input.market
  let parsedSize ← parseDecimal size "intent.size"
  let parsedPrice ← parseDecimal price "intent.price"
  pure (size, price, multiplyDecimal parsedSize parsedPrice)

def validateMarketOrder (input : TradingActionValidationInput)
    (intent : MarketOrderIntent) : Outcome ValidatedTradingAction := do
  let (size, price, notional) ← normalizedTerms input intent.assetId intent.size
    intent.aggressiveLimitPrice
  assertSlippage input intent.side price
  assertMargin input notional false
  let cloid ← parseCloid intent.cloid "cloid"
  validatedAction input
    (.marketOrder { intent with
      size := size, aggressiveLimitPrice := price, cloid := cloid })
    (some notional)

def validateLimitOrder (input : TradingActionValidationInput)
    (intent : LimitOrderIntent) : Outcome ValidatedTradingAction := do
  let (size, price, notional) ← normalizedTerms input intent.assetId intent.size
    intent.limitPrice
  require (input.controls.slippageBps = none)
    (.validation "controls.slippageBps" "slippage applies only to market execution")
  if intent.reduceOnly then assertReduceOnly input intent.side size false
  assertMargin input notional intent.reduceOnly
  let cloid ← parseCloid intent.cloid "cloid"
  validatedAction input
    (.limitOrder { intent with size := size, limitPrice := price, cloid := cloid })
    (some notional)

def validateReduceOnlyClose (input : TradingActionValidationInput)
    (intent : ReduceOnlyCloseIntent) : Outcome ValidatedTradingAction := do
  let (size, price, notional) ← normalizedTerms input intent.assetId intent.size
    intent.aggressiveLimitPrice
  assertSlippage input intent.side price
  assertReduceOnly input intent.side size true
  assertMargin input notional true
  let cloid ← parseCloid intent.cloid "cloid"
  validatedAction input
    (.reduceOnlyClose { intent with
      size := size, aggressiveLimitPrice := price, cloid := cloid })
    (some notional)

def expectedDirection (side : OrderSide) (triggerKind : PositionTpslKind) : TriggerDirection :=
  match side, triggerKind with
  | .sell, .takeProfit => .above
  | .sell, .stopLoss => .below
  | .buy, .takeProfit => .below
  | .buy, .stopLoss => .above

def assertTriggerControl (input : TradingActionValidationInput)
    (triggerPrice : String) (direction : TriggerDirection) : Outcome Unit := do
  let message := "the trigger price and direction must match the protective order"
  let trigger ← present input.controls.trigger "controls.trigger" message
  let price ← normalizePrice trigger.price input.market
  require (price = triggerPrice ∧ trigger.direction = direction)
    (.validation "controls.trigger" message)

def assertExistingOrder (account : ActionAccountRules) (assetId : ℤ)
    (existingOid : Option ℤ) : Outcome Unit :=
  match existingOid with
  | none => pure ()
  | some oid => do
      let oid ← safeInteger oid "intent.existingOid" 1
      require (∃ orders ∈ account.openOrders, ∃ order ∈ orders,
          order.assetId = assetId ∧ order.oid = some oid)
        (.validation "intent.existingOid" "the protective order is no longer open")

def validatePositionTpsl (input : TradingActionValidationInput)
    (intent : PositionTpslIntent) : Outcome ValidatedTradingAction := do
  let assetId ← safeInteger intent.assetId "intent.assetId" 0
  assertTradableMarket input.market assetId
  require (input.market.family = .perp)
    (.validation "intent.type" "position TP/SL requires a perpetual market")
  let size ← normalizeSize intent.size input.market
  let triggerPrice ← normalizePrice intent.triggerPrice input.market
  let aggressiveLimitPrice ← normalizePrice intent.aggressiveLimitPrice input.market
  assertReduceOnly input intent.side size true
  let direction := expectedDirection intent.side intent.triggerKind
  assertTriggerControl input triggerPrice direction
  let reference ← requiredReference input.market
  let trigger ← parseDecimal triggerPrice "intent.triggerPrice"
  require (compareDecimal trigger reference =
      match direction with
      | .above => .gt
      | .below => .lt)
    (.validation "intent.triggerPrice" ("trigger price must be " ++ direction.text ++
        " the current reference price"))
  let bps ← reviewedSlippage input.controls
  let aggressive ← parseDecimal aggressiveLimitPrice "intent.aggressiveLimitPrice"
  require (insideSlippage intent.side bps aggressive trigger)
    (.validation "intent.aggressiveLimitPrice"
      "execution price exceeds the protective-order slippage bound")
  assertExistingOrder input.account intent.assetId intent.existingOid
  let cloid ← parseCloid intent.cloid "cloid"
  let parsedSize ← parseDecimal size "intent.size"
  validatedAction input
    (.positionTpsl { intent with
      size := size
      triggerPrice := triggerPrice
      aggressiveLimitPrice := aggressiveLimitPrice
      cloid := cloid })
    (some (multiplyDecimal parsedSize trigger))

/-- The loop over the open orders: whether one of them is the target. The client
order IDs of the orders before it have to be well formed. -/
def matchesOpenOrder (assetId : ℤ) (target : CancelTarget) :
    List CurrentOpenOrderIdentity → Outcome Bool
  | [] => pure false
  | order :: orders =>
    if order.assetId ≠ assetId then matchesOpenOrder assetId target orders
    else
      match target with
      | .oid oid =>
        if order.oid = some oid then pure true
        else matchesOpenOrder assetId target orders
      | .cloid targetCloid =>
        match order.cloid with
        | none => matchesOpenOrder assetId target orders
        | some text => do
            let cloid ← parseCloid text "account.openOrders.cloid"
            if cloid = targetCloid then pure true
            else matchesOpenOrder assetId target orders

def normalizeTarget : CancelTarget → Outcome CancelTarget
  | .oid orderId => do
      let orderId ← safeInteger orderId "intent.target.oid" 1
      pure (.oid orderId)
  | .cloid text => do
      let cloid ← parseCloid text "cloid"
      pure (.cloid cloid)

def validateCancel (input : TradingActionValidationInput) (intent : CancelIntent) :
    Outcome ValidatedTradingAction := do
  let assetId ← safeInteger intent.assetId "intent.assetId" 0
  assertTradableMarket input.market assetId
  require (input.controls.slippageBps = none ∧ input.controls.trigger = none)
    (.validation "controls" "cancel does not accept slippage or trigger controls")
  let orders ← present input.account.openOrders "account.openOrders"
    "current open-order evidence is required"
  let target ← normalizeTarget intent.target
  let matched ← matchesOpenOrder intent.assetId target orders
  require (matched = true)
    (.validation "intent.target" "the exact order is not open in current account state")
  validatedAction input (.cancel { intent with target := target }) none

def validateLeverage (input : TradingActionValidationInput)
    (intent : UpdateLeverageIntent) : Outcome ValidatedTradingAction := do
  let assetId ← safeInteger intent.assetId "intent.assetId" 0
  assertTradableMarket input.market assetId
  require (input.market.family = .perp)
    (.validation "intent.type" "leverage updates require a perpetual market")
  require (input.controls.slippageBps = none ∧ input.controls.trigger = none)
    (.validation "controls" "leverage updates do not accept order controls")
  require (isSafeInteger intent.leverage ∧ 1 ≤ intent.leverage ∧
      ∃ maxLeverage ∈ input.market.maxLeverage, isSafeInteger maxLeverage ∧
        intent.leverage ≤ min maxLeverage 100)
    (.validation "intent.leverage" "leverage exceeds the current market maximum")
  require (input.market.onlyIsolated = some true → intent.marginMode = .isolated)
    (.validation "intent.marginMode" "this market requires isolated margin")
  validatedAction input (.updateLeverage intent) none

def validateTradingAction (viem : Viem) (input : TradingActionValidationInput) :
    Outcome ValidatedTradingAction := do
  assertCurrentContext viem input.context
  match input.intent with
  | .marketOrder intent => validateMarketOrder input intent
  | .limitOrder intent => validateLimitOrder input intent
  | .reduceOnlyClose intent => validateReduceOnlyClose input intent
  | .positionTpsl intent => validatePositionTpsl input intent
  | .cancel intent => validateCancel input intent
  | .updateLeverage intent => validateLeverage input intent
  | .bulkCancel _ =>
    invalid "intent.type" "bulk cancel is not a reviewed U7 public action"

end HyperTrader
