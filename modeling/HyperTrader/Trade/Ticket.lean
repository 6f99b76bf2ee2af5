import HyperTrader.Actions.RoundedPrice
import HyperTrader.Context.Supervisor
import HyperTrader.Markets.Types
import HyperTrader.Orchestrator.Review

/-!
# The trade ticket

A draft is bound to a context, a market and the market's trading rules. A review is built
of it when the gate is open: the intent of the draft, and the rules and the account that
the validator checks it against.
-/

namespace HyperTrader

open Library

def Market.family : Market → MarketFamily
  | .perp _ => .perp
  | .spot _ => .spot
  | .outcome _ => .outcome

def Market.sizeDecimals : Market → Option ℤ
  | .perp market => some market.sizeDecimals
  | .spot market => some market.sizeDecimals
  | .outcome _ => none

def perpFingerprint : Market → List Json
  | .perp market =>
    [.number market.maxLeverage, .bool market.onlyIsolated,
      market.marginMode.elim .null .string, market.marginTableId.elim .null .number]
  | _ => [.null, .null, .null, .null]

def tradeMarketFingerprint (market : Market) : String :=
  Json.stringify (.array ([.string "hyper-trader-market-safety-v1", .string market.base.canonicalId,
      .number market.base.orderAssetId, .string market.family.text,
      market.pricePrecision.elim .null fun precision =>
        .array [.number precision.maxSignificantFigures, .number precision.maxDecimalPlaces],
      market.sizeDecimals.elim .null .number] ++ perpFingerprint market ++
    [.string market.base.lifecycle.text, .string market.base.orderAvailability.text]))

structure DraftContextBinding where
  context : TradingContextIdentity
  contextKey : String
  marketCanonicalId : String
  metadataFingerprint : String
  deriving DecidableEq

structure DraftContextInput where
  context : TradingContextIdentity
  marketCanonicalId : String
  metadataFingerprint : String

def validateDraftContext (binding : DraftContextBinding) (current : DraftContextInput) :
    Option String :=
  if binding.context.network ≠ current.context.network then
    some "The active network changed. Review this order again."
  else if binding.contextKey ≠ contextIdentityKey current.context then
    some "The active account changed. Review this order again."
  else if binding.marketCanonicalId ≠ current.marketCanonicalId then
    some "The selected market changed. Review this order again."
  else if binding.metadataFingerprint ≠ current.metadataFingerprint then
    some "Market trading rules changed. Refresh the order and review it again."
  else none

structure AvailableFunds where
  buy : String
  sell : String
  deriving DecidableEq

def AvailableFunds.of (funds : AvailableFunds) : OrderSide → String
  | .buy => funds.buy
  | .sell => funds.sell

/-- `TradeAccountSnapshot`, but for the entry and the liquidation price that are shown. -/
structure TradeAccountSnapshot where
  availableFunds : AvailableFunds
  leverage : Option ℤ
  marginMode : Option MarginMode
  positionSize : String
  version : ℤ
  observedAtMs : ℤ
  deriving DecidableEq

inductive TradeOrderType where
  | market
  | limit
  deriving DecidableEq

structure TradeDraft where
  binding : DraftContextBinding
  side : OrderSide
  orderType : TradeOrderType
  size : String
  limitPrice : String
  leverage : Option ℤ
  timeInForce : LimitTimeInForce
  reduceOnly : Bool
  slippageBps : String
  deriving DecidableEq

inductive TradeConnectivity where
  | current
  | stale
  | offline
  | reconnecting

inductive TradeSignerState where
  | missing
  | unlocked
  | locked
  | expired
  deriving DecidableEq

structure TradeAuthority where
  connectivity : TradeConnectivity
  account : Option TradeAccountSnapshot
  signerState : TradeSignerState
  actionRuntimeAvailable : Bool

inductive TradeGateCode where
  | ready
  | invalidTime
  | mainnet
  | marketUnavailable
  | hip3ReleaseGate
  | staleMetadata
  | offline
  | reconnecting
  | readOnly
  | expiredAgent
  | staleAccount
  deriving DecidableEq

structure TradeGate where
  code : TradeGateCode
  reason : String

def accountFreshnessWindowMs : ℤ := 30000

def reviewWindowMs : ℤ := 30000

def minimumOrderNotional : String := "10"

def tradeReferencePrice (market : Market) : String :=
  (market.base.context.midPx.join.or market.base.context.markPx).getD ""

def hasSupportedOrderMetadata (market : Market) : Bool :=
  market.family != .outcome && market.base.lifecycle == .active &&
    market.base.orderAvailability == .enabled && market.sizeDecimals.isSome &&
    market.pricePrecision.isSome

def Market.isBuilderPerp : Market → Bool
  | .perp market => market.dexIndex != 0
  | _ => false

def hasTradingActionCapability (network : HyperliquidNetwork) : Bool :=
  (actionCapability network).signerAccess && (actionCapability network).exchangeTransport

def networkLabel : HyperliquidNetwork → String
  | .mainnet => "Mainnet"
  | .testnet => "Testnet"

def evaluateAccountGate (context : TradingContextIdentity) (authority : TradeAuthority)
    (nowMs : ℤ) : TradeGate :=
  if context.masterAccount = none ∨ context.targetAccount = none then
    ⟨.readOnly, "Select a " ++ networkLabel context.network ++ " account to review this order."⟩
  else
    match authority.account with
    | none => ⟨.readOnly, "Refresh current account data before reviewing this order."⟩
    | some account =>
      if context.signer = none ∨ authority.signerState = .missing then
        ⟨.readOnly, "The selected " ++ networkLabel context.network ++
          " API wallet is unavailable on this device. Repair it in Settings."⟩
      else if authority.signerState = .expired then
        ⟨.expiredAgent, "This API wallet is no longer active. Add a new one to continue."⟩
      else if ¬isSafeInteger account.observedAtMs ∨ nowMs + 5000 < account.observedAtMs ∨
          accountFreshnessWindowMs < nowMs - account.observedAtMs then
        ⟨.staleAccount, "Account details will refresh before review."⟩
      else if authority.actionRuntimeAvailable = false then
        ⟨.ready, "Ready for review. Order submission is currently unavailable."⟩
      else if authority.signerState = .locked then
        ⟨.ready, "Ready for review. You’ll confirm on this device only when signing is required."⟩
      else ⟨.ready, "Ready for review."⟩

def evaluateTradeGate (market : Market) (context : TradingContextIdentity)
    (authority : TradeAuthority) (nowMs : ℤ) : TradeGate :=
  if ¬isSafeInteger nowMs ∨ nowMs < 0 then
    ⟨.invalidTime, "Check your device time, then refresh."⟩
  else if hasTradingActionCapability context.network = false then
    ⟨.mainnet, networkLabel context.network ++ " trading is disabled in this release."⟩
  else if hasSupportedOrderMetadata market = false then
    ⟨.marketUnavailable, "Trading is not available for this market."⟩
  else if market.isBuilderPerp = true then
    ⟨.hip3ReleaseGate, "Trading is not available for this builder market."⟩
  else
    match authority.connectivity with
    | .offline => ⟨.offline, "Connect to the internet to review an order."⟩
    | .reconnecting => ⟨.reconnecting, "Reconnecting to market data…"⟩
    | .stale => ⟨.staleMetadata, "Refresh market data before review."⟩
    | .current => evaluateAccountGate context authority nowMs

def signerBindingForTradeContext (context : TradingContextIdentity) : Outcome SignerBinding :=
  match context.masterAccount, context.targetAccount, context.signer with
  | some masterAccount, some targetAccount, some signer => do
      require (hasTradingActionCapability context.network = true)
        (.error "An exact signer binding on an enabled trading network is required for review.")
      pure
        { network := context.network
          masterAccount := masterAccount
          targetAccount := targetAccount
          agentAddress := signer.agentAddress
          generation := signer.generation }
  | _, _, _ =>
    .error (.error "An exact signer binding on an enabled trading network is required for review.")

def slippageValue (draft : TradeDraft) : Outcome ℤ := do
  let message := "Slippage must be whole basis points from 0 through 500."
  require (draft.slippageBps ≠ "" ∧ draft.slippageBps.toList.all Char.isDigit = true)
    (.error message)
  let value : ℤ := digitsValue draft.slippageBps.toList
  require (isSafeInteger value ∧ 0 ≤ value ∧ value ≤ 500) (.error message)
  pure value

def draftSlippage (draft : TradeDraft) : Outcome (Option ℤ) :=
  match draft.orderType with
  | .market => do
      let value ← slippageValue draft
      pure (some value)
  | .limit => pure none

def draftIntent (market : Market) (draft : TradeDraft) (reference : String)
    (precision : PricePrecisionInputs) (slippage : Option ℤ) (cloid : String) :
    Outcome TradingActionIntent :=
  match slippage with
  | none => pure (.limitOrder
      { assetId := market.base.orderAssetId
        side := draft.side
        size := trim draft.size
        limitPrice := trim draft.limitPrice
        timeInForce := draft.timeInForce
        reduceOnly := market.family == .perp && draft.reduceOnly
        cloid := cloid })
  | some slippage => do
      let aggressiveLimitPrice ← aggressiveOrderPrice reference draft.side slippage precision
      pure (.marketOrder
        { assetId := market.base.orderAssetId
          side := draft.side
          size := trim draft.size
          aggressiveLimitPrice := aggressiveLimitPrice
          cloid := cloid })

def tradeMarketRules (market : Market) (reference : String) : ActionMarketRules where
  canonicalId := market.base.canonicalId
  metadataFingerprint := tradeMarketFingerprint market
  orderAssetId := market.base.orderAssetId
  family := market.family
  lifecycle := market.base.lifecycle
  orderAvailability := market.base.orderAvailability
  sizeDecimals := market.sizeDecimals
  pricePrecision := market.pricePrecision
  maxLeverage := match market with
    | .perp market => some market.maxLeverage
    | _ => none
  onlyIsolated := match market with
    | .perp market => some market.onlyIsolated
    | _ => none
  referencePrice := some reference
  minimumNotional := some minimumOrderNotional

def tradeAccountRules (market : Market) (account : TradeAccountSnapshot) (side : OrderSide) :
    ActionAccountRules where
  availableMargin := account.availableFunds.of side
  leverage := if market.family = .spot then some 1 else account.leverage
  marginMode := if market.family = .spot then none else account.marginMode
  positionSize := some account.positionSize
  openOrders := none
  version := account.version

structure TradeReviewInput where
  market : Market
  context : TradingContextIdentity
  capturedContextEpoch : ℤ
  authority : TradeAuthority
  draft : TradeDraft
  cloid : String
  nowMs : ℤ

def reviewContext (binding : SignerBinding) (capturedContextEpoch nowMs : ℤ) :
    ActionValidationContext where
  network := binding.network
  masterAccount := binding.masterAccount
  targetAccount := binding.targetAccount
  capturedContextEpoch := capturedContextEpoch
  currentContextEpoch := capturedContextEpoch
  currentNetwork := binding.network
  currentMasterAccount := binding.masterAccount
  currentTargetAccount := binding.targetAccount
  reviewedAtMs := nowMs
  reviewExpiresAtMs := nowMs + reviewWindowMs
  nowMs := nowMs

def tradeValidation (input : TradeReviewInput) : Outcome (SignerBinding ×
    TradingActionValidationInput) := do
  let gate := evaluateTradeGate input.market input.context input.authority input.nowMs
  require (gate.code = .ready) (.error gate.reason)
  (validateDraftContext input.draft.binding
    { context := input.context
      marketCanonicalId := input.market.base.canonicalId
      metadataFingerprint := tradeMarketFingerprint input.market }).elim (pure ())
    fun message => .error (.error message)
  let account ← input.authority.account.elim
    (.error (.error "A current account snapshot is required for review.")) .ok
  require (trim input.draft.size ≠ "") (.error "Enter an order size before review.")
  let reference := tradeReferencePrice input.market
  require (reference ≠ "") (.error "A current reference price is required for review.")
  let pricePrecision ← input.market.pricePrecision.elim
    (.error (.error "Current price precision is required for review.")) .ok
  require (input.market.family = .perp → input.draft.leverage = account.leverage)
    (.error ("Account leverage changed while this review was being prepared. " ++
      "Try again with the refreshed order."))
  let slippage ← draftSlippage input.draft
  let intent ← draftIntent input.market input.draft reference pricePrecision slippage
    input.cloid
  let binding ← signerBindingForTradeContext input.context
  pure (binding,
    { context := reviewContext binding input.capturedContextEpoch input.nowMs
      market := tradeMarketRules input.market reference
      account := tradeAccountRules input.market account input.draft.side
      controls := { slippageBps := slippage, trigger := none }
      intent := intent })

def buildTradeReview (viem : Viem) (input : TradeReviewInput) : Outcome ActionReviewSnapshot := do
  let (binding, validation) ← tradeValidation input
  match createActionReview viem
      { binding := binding
        capturedContextEpoch := input.capturedContextEpoch
        validation := validation
        vaultAddress := none } with
  | .error (.validation path message) =>
    if path = "intent.notional" then .error (.error minimumOrderNotionalMessage)
    else .error (.validation path message)
  | outcome => outcome

theorem elim_error_eq_ok {α : Type} {value : Option α} {failure : Failure} {a : α} :
    value.elim (.error failure : Outcome α) .ok = .ok a ↔ value = some a := by
  cases value with
  | none => simp
  | some found => simp

variable {input : TradeReviewInput} {binding : SignerBinding}
  {validation : TradingActionValidationInput}

/-- What is validated of a review: the account of the ticket, and the intent of the draft at
the market's reference. -/
structure BuiltOf (input : TradeReviewInput) (binding : SignerBinding)
    (validation : TradingActionValidationInput) (account : TradeAccountSnapshot)
    (precision : PricePrecisionInputs) (slippage : Option ℤ) : Prop where
  ofAccount : input.authority.account = some account
  ofPrecision : input.market.pricePrecision = some precision
  ofSlippage : draftSlippage input.draft = .ok slippage
  ofIntent : draftIntent input.market input.draft (tradeReferencePrice input.market) precision
    slippage input.cloid = .ok validation.intent
  ofBinding : signerBindingForTradeContext input.context = .ok binding
  eq : validation =
    { context := reviewContext binding input.capturedContextEpoch input.nowMs
      market := tradeMarketRules input.market (tradeReferencePrice input.market)
      account := tradeAccountRules input.market account input.draft.side
      controls := { slippageBps := slippage, trigger := none }
      intent := validation.intent }

theorem builtOf_of_tradeValidation (h : tradeValidation input = .ok (binding, validation)) :
    ∃ account precision slippage,
      BuiltOf input binding validation account precision slippage := by
  simp only [tradeValidation, except_bind_eq_ok, require_eq_ok, elim_error_eq_ok] at h
  obtain ⟨_, -, _, -, account, haccount, _, -, _, -, precision, hprecision, _, -, slippage,
    hslippage, intent, hintent, binding', hbinding, hresult⟩ := h
  cases hresult
  exact ⟨account, precision, slippage, haccount, hprecision, hslippage, hintent, hbinding, rfl⟩

variable {account : TradeAccountSnapshot} {precision : PricePrecisionInputs} {slippage : Option ℤ}
  {viem : Viem} {review : ActionReviewSnapshot}

theorem BuiltOf.marketOrder (h : BuiltOf input binding validation account precision slippage)
    (hmarket : input.draft.orderType = .market) :
    ∃ bps price, slippage = some bps ∧
      aggressiveOrderPrice (tradeReferencePrice input.market) input.draft.side bps precision =
        .ok price ∧
      validation.intent = .marketOrder
        { assetId := input.market.base.orderAssetId
          side := input.draft.side
          size := trim input.draft.size
          aggressiveLimitPrice := price
          cloid := input.cloid } := by
  have hslippage := h.ofSlippage
  rw [draftSlippage, hmarket] at hslippage
  simp only [except_bind_eq_ok] at hslippage
  obtain ⟨bps, -, hresult⟩ := hslippage
  cases hresult
  have hintent := h.ofIntent
  simp only [draftIntent, except_bind_eq_ok] at hintent
  obtain ⟨price, hprice, hresult⟩ := hintent
  exact ⟨bps, price, rfl, hprice, (Except.ok.inj hresult).symm⟩

theorem BuiltOf.limitOrder (h : BuiltOf input binding validation account precision slippage)
    (hlimit : input.draft.orderType = .limit) :
    slippage = none ∧ validation.intent = .limitOrder
      { assetId := input.market.base.orderAssetId
        side := input.draft.side
        size := trim input.draft.size
        limitPrice := trim input.draft.limitPrice
        timeInForce := input.draft.timeInForce
        reduceOnly := input.market.family == .perp && input.draft.reduceOnly
        cloid := input.cloid } := by
  have hslippage := h.ofSlippage
  rw [draftSlippage, hlimit] at hslippage
  cases hslippage
  exact ⟨rfl, (Except.ok.inj h.ofIntent).symm⟩

/-- A review holds what the validation of its own input returned. -/
theorem createActionReview_validated {reviewed : ActionReviewInput}
    (h : createActionReview viem reviewed = .ok review) :
    validateTradingAction viem reviewed.validation = .ok review.validated := by
  simp only [createActionReview, except_bind_eq_ok] at h
  obtain ⟨_, -, _, -, _, -, _, -, _, -, _, -, validated, hvalidated, hresult⟩ := h
  cases hresult
  exact hvalidated

theorem buildTradeReview_validated (h : buildTradeReview viem input = .ok review) :
    ∃ binding validation, tradeValidation input = .ok (binding, validation) ∧
      validateTradingAction viem validation = .ok review.validated := by
  simp only [buildTradeReview, except_bind_eq_ok] at h
  obtain ⟨⟨binding, validation⟩, hbuilt, h⟩ := h
  refine ⟨binding, validation, hbuilt, ?_⟩
  split at h
  · split_ifs at h
  · exact createActionReview_validated h

end HyperTrader
