import HyperTrader.Library.Entries
import HyperTrader.Library.Only
import HyperTrader.Markets.Types
import HyperTrader.Portfolio.TpslPercentage

/-!
# The rows of a portfolio

A snapshot of an account on every DEX becomes rows of positions and open orders, and its
history rows of fills and funding. A market is attached to a position or an order by a key
that joins the DEX and the coin; the identity of a row joins what its record is of.
-/

namespace HyperTrader

open Library

/-- `PerpPosition`, but for the margin and the funding that are not shown. -/
structure PerpPosition where
  coin : String
  size : String
  entryPrice : Option String
  liquidationPrice : Option String
  positionValue : String
  returnOnEquity : String
  unrealizedPnl : String
  maxLeverage : ℤ
  leverageType : String
  leverageValue : ℤ
  deriving DecidableEq

/-- `ClearinghouseState`, but for its summaries. -/
structure ClearinghouseState where
  positions : List PerpPosition
  time : ℤ
  withdrawable : String
  deriving DecidableEq

structure FrontendOpenOrder where
  coin : String
  limitPrice : String
  oid : ℤ
  side : String
  size : String
  timestamp : ℤ
  originalSize : String
  triggerCondition : String
  isTrigger : Bool
  triggerPrice : String
  isPositionTpsl : Bool
  reduceOnly : Bool
  orderType : String
  deriving DecidableEq

structure PortfolioPerpSource where
  dexName : String
  dexFullName : Option String
  state : ClearinghouseState
  openOrders : List FrontendOpenOrder
  deriving DecidableEq

/-- `PortfolioLiveSourceSnapshot`, but for the owner and the spot balances. -/
structure PortfolioLiveSource where
  markets : List Market
  perpStates : List PortfolioPerpSource
  observedAtMs : ℤ
  sourceGaps : List String

structure UserFill where
  coin : String
  side : String
  price : String
  size : String
  closedPnl : String
  startPosition : String
  fee : String
  feeToken : String
  oid : ℤ
  time : ℤ
  hash : String
  deriving DecidableEq

structure UserFundingRecord where
  time : ℤ
  hash : String
  coin : String
  usdc : String
  size : String
  fundingRate : String
  deriving DecidableEq

/-- `PortfolioHistorySourceSnapshot`, but for the performance. -/
structure PortfolioHistorySource where
  fills : List UserFill
  funding : List UserFundingRecord

structure PortfolioPositionProtection where
  oid : ℤ
  triggerPrice : String

structure PortfolioPositionRow where
  id : String
  canonicalMarketId : Option String
  market : Option PerpMarket
  venue : String
  coin : String
  size : String
  absoluteSize : String
  side : PositionSide
  entryPrice : Option String
  liquidationPrice : Option String
  positionValue : String
  unrealizedPnl : String
  returnOnEquity : String
  leverage : ℤ
  marginMode : Option MarginMode
  maxLeverage : ℤ
  onlyIsolated : Bool
  availableMargin : String
  accountVersion : ℤ
  actionsEnabled : Bool
  closeEnabled : Bool
  marginActionEnabled : Bool
  protectionEnabled : Bool
  takeProfit : Option PortfolioPositionProtection
  stopLoss : Option PortfolioPositionProtection

structure PortfolioOpenOrderRow where
  id : String
  canonicalMarketId : Option String
  market : Option Market
  venue : String
  coin : String
  limitPrice : String
  oid : ℤ
  side : String
  size : String
  timestamp : ℤ
  availableMargin : String
  accountVersion : ℤ
  cancelEnabled : Bool
  isTrigger : Bool
  triggerPrice : String
  isPositionTpsl : Bool
  reduceOnly : Bool
  orderType : String

inductive ActivityKind where
  | fill
  | funding

structure PortfolioActivityRow where
  id : String
  kind : ActivityKind
  time : ℤ
  coin : String
  side : Option String
  amount : String
  detail : String

/-- `NormalizedPortfolioLive`, but for the owner and the spot balances. -/
structure NormalizedPortfolioLive where
  observedAtMs : ℤ
  version : ℤ
  positions : List PortfolioPositionRow
  openOrders : List PortfolioOpenOrderRow
  gaps : List String

/-- `NormalizedPortfolioHistory`, but for the performance. -/
structure NormalizedPortfolioHistory where
  fills : List UserFill
  funding : List UserFundingRecord
  activity : List PortfolioActivityRow

def venueKey (dexName coin : String) : String := dexName ++ ":" ++ coin

def spotKey (coin : String) : String := "spot:" ++ coin

def perpEntry : Market → Option (String × PerpMarket)
  | .perp market => some (venueKey market.dexName market.coin, market)
  | _ => none

def orderEntry : Market → Option (String × Market)
  | .perp market => some (venueKey market.dexName market.coin, .perp market)
  | .spot market => some (spotKey market.coin, .spot market)
  | .outcome _ => none

structure MarketLookups where
  perp : String → Option (Option PerpMarket)
  orders : String → Option (Option Market)

def marketLookups (markets : List Market) : MarketLookups where
  perp := indexOf (markets.filterMap perpEntry)
  orders := indexOf (markets.filterMap orderEntry)

def marketFor (lookups : MarketLookups) (dexName coin : String) : Option PerpMarket :=
  (lookups.perp (venueKey dexName coin)).join

def orderMarketFor (lookups : MarketLookups) (dexName coin : String) : Option Market :=
  match lookups.orders (venueKey dexName coin), lookups.orders (spotKey coin) with
  | some _, some _ => none
  | some perp, none => perp
  | none, some spot => spot
  | none, none => none

def absoluteDecimal (value : String) : Outcome String := do
  require ((readDecimal value).isSome = true) (.error "Position size is invalid.")
  pure (match value.toList with
    | '-' :: rest => String.ofList rest
    | _ => value)

def isZeroDecimal (value : String) : Bool :=
  (readDecimal value).any fun text => text.coefficient == 0

def venue (source : PortfolioPerpSource) : String :=
  if source.dexName = "" then "Hyperliquid" else source.dexFullName.getD source.dexName

def marginModeOf (value : String) : Option MarginMode :=
  if value = "cross" then some .cross else if value = "isolated" then some .isolated else none

def protectiveMatches (orders : List FrontendOpenOrder) (coin : String) (side : PositionSide)
    (kind : PositionTpslKind) : List FrontendOpenOrder :=
  let expectedSide := match side with
    | .long => "A"
    | .short => "B"
  let expectedType := match kind with
    | .takeProfit => "Take Profit"
    | .stopLoss => "Stop"
  (orders.filter fun order =>
    order.coin == coin && order.side == expectedSide && order.isPositionTpsl &&
      order.isTrigger && order.reduceOnly &&
      expectedType.toList.isPrefixOf order.orderType.toList).mergeSort
    fun left right => decide (right.timestamp < left.timestamp ∨
      right.timestamp = left.timestamp ∧ right.oid ≤ left.oid)

def protectiveOrder (orders : List FrontendOpenOrder) (coin : String) (side : PositionSide)
    (kind : PositionTpslKind) (source : String) :
    Option PortfolioPositionProtection × List String :=
  let found := protectiveMatches orders coin side kind
  let label := match kind with
    | .takeProfit => "take-profit"
    | .stopLoss => "stop-loss"
  (found.head?.map fun order => ⟨order.oid, order.triggerPrice⟩, if 1 < found.length then
      ["Multiple " ++ label ++ " orders matched " ++ coin ++ " on " ++ source ++
        "; the latest is shown."] else [])

def BaseMarket.isOpen (market : BaseMarket) : Bool :=
  market.lifecycle == .active && market.orderAvailability == .enabled

def positionId (dexName coin : String) : String := venueKey dexName coin

def positionRow (lookups : MarketLookups) (perp : PortfolioPerpSource)
    (position : PerpPosition) : Outcome (PortfolioPositionRow × List String) := do
  let market := marketFor lookups perp.dexName position.coin
  let active := market.any fun market => market.isOpen
  let native := market.any fun market => market.dexIndex == 0
  let side : PositionSide := if position.size.toList.head? = some '-' then .short else .long
  let absoluteSize ← absoluteDecimal position.size
  let takeProfit := protectiveOrder perp.openOrders position.coin side .takeProfit (venue perp)
  let stopLoss := protectiveOrder perp.openOrders position.coin side .stopLoss (venue perp)
  pure
    ({ id := positionId perp.dexName position.coin
       canonicalMarketId := market.map (·.canonicalId)
       market := market
       venue := venue perp
       coin := position.coin
       size := position.size
       absoluteSize := absoluteSize
       side := side
       entryPrice := position.entryPrice
       liquidationPrice := position.liquidationPrice
       positionValue := position.positionValue
       unrealizedPnl := position.unrealizedPnl
       returnOnEquity := position.returnOnEquity
       leverage := position.leverageValue
       marginMode := marginModeOf position.leverageType
       maxLeverage := position.maxLeverage
       onlyIsolated := market.any (·.onlyIsolated)
       availableMargin := perp.state.withdrawable
       accountVersion := perp.state.time
       actionsEnabled := active
       closeEnabled := active && native
       marginActionEnabled := active
       protectionEnabled := active && native
       takeProfit := takeProfit.1
       stopLoss := stopLoss.1 }, (if market.isNone then
        ["No validated market matched perpetual position " ++ position.coin ++ " on " ++
          venue perp ++ "."] else []) ++ takeProfit.2 ++ stopLoss.2)

def openOrderId (dexName : String) (oid : ℤ) : String := dexName ++ ":" ++ toString oid

def openOrderRow (lookups : MarketLookups) (perp : PortfolioPerpSource)
    (order : FrontendOpenOrder) : PortfolioOpenOrderRow × List String :=
  let market := orderMarketFor lookups perp.dexName order.coin
  ({ id := openOrderId perp.dexName order.oid
     canonicalMarketId := market.map (·.base.canonicalId)
     market := market
     venue := venue perp
     coin := order.coin
     limitPrice := order.limitPrice
     oid := order.oid
     side := order.side
     size := order.size
     timestamp := order.timestamp
     availableMargin := perp.state.withdrawable
     accountVersion := perp.state.time
     cancelEnabled := market.any fun market => market.base.isOpen
     isTrigger := order.isTrigger
     triggerPrice := order.triggerPrice
     isPositionTpsl := order.isPositionTpsl
     reduceOnly := order.reduceOnly
     orderType := order.orderType }, if market.isNone then
      ["No validated market matched open order " ++ toString order.oid ++ " for " ++ order.coin ++
        " on " ++ venue perp ++ "."] else [])

def PortfolioPerpSource.held (perp : PortfolioPerpSource) : List PerpPosition :=
  perp.state.positions.filter fun position => !isZeroDecimal position.size

def perpRows (lookups : MarketLookups) (perp : PortfolioPerpSource) :
    Outcome (List PortfolioPositionRow × List PortfolioOpenOrderRow × List String) := do
  require (isSafeInteger perp.state.time ∧ 0 ≤ perp.state.time)
    (.error "Perpetual account version is invalid.")
  let positions ← perp.held.mapM (positionRow lookups perp)
  let openOrders := perp.openOrders.map (openOrderRow lookups perp)
  pure (positions.map Prod.fst, openOrders.map Prod.fst,
    positions.flatMap Prod.snd ++ openOrders.flatMap Prod.snd)

def normalizePortfolioLiveSnapshot (source : PortfolioLiveSource) :
    Outcome NormalizedPortfolioLive := do
  require (isSafeInteger source.observedAtMs ∧ 0 ≤ source.observedAtMs)
    (.error "Portfolio observation time is invalid.")
  let rows ← source.perpStates.mapM (perpRows (marketLookups source.markets))
  pure
    { observedAtMs := source.observedAtMs
      version := (source.perpStates.map fun perp => perp.state.time).foldl max 0
      positions := rows.flatMap fun row => row.1
      openOrders := (rows.flatMap fun row => row.2.1).mergeSort
        fun left right => decide (right.timestamp ≤ left.timestamp)
      gaps := (source.sourceGaps ++ rows.flatMap fun row => row.2.2).eraseDups }

def fillId (fill : UserFill) : String := "fill:" ++ fill.hash ++ ":" ++ toString fill.oid

def portfolioFundingId (funding : UserFundingRecord) : String :=
  "funding:" ++ funding.hash ++ ":" ++ funding.coin ++ ":" ++ toString funding.time

def fillActivity (fill : UserFill) : PortfolioActivityRow where
  id := fillId fill
  kind := .fill
  time := fill.time
  coin := fill.coin
  side := some fill.side
  amount := fill.closedPnl
  detail := "Size " ++ fill.size ++ " · Price " ++ fill.price

def fundingActivity (funding : UserFundingRecord) : PortfolioActivityRow where
  id := portfolioFundingId funding
  kind := .funding
  time := funding.time
  coin := funding.coin
  side := none
  amount := funding.usdc
  detail := "Rate " ++ funding.fundingRate ++ " · Position size " ++ funding.size

def normalizePortfolioHistorySnapshot (source : PortfolioHistorySource) :
    NormalizedPortfolioHistory where
  fills := source.fills.mergeSort fun left right => decide (right.time ≤ left.time)
  funding := source.funding.mergeSort fun left right => decide (right.time ≤ left.time)
  activity := (source.fills.map fillActivity ++ source.funding.map fundingActivity).mergeSort
    fun left right => decide (right.time ≤ left.time)

end HyperTrader
