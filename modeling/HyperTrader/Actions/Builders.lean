import HyperTrader.Actions.Validation

/-!
# Exchange actions

The action the exchange receives for each intent, with its fields in the order
the builders write them. The builders check again what they put on the wire.
-/

namespace HyperTrader

open Library

inductive TriggerKindWire where
  | tp
  | sl
  deriving DecidableEq

def TriggerKindWire.text : TriggerKindWire → String
  | tp => "tp"
  | sl => "sl"

inductive OrderTypeWire where
  | limit (tif : LimitTimeInForce)
  | trigger (triggerPx : String) (tpsl : TriggerKindWire)
  deriving DecidableEq

structure OrderWire where
  a : ℤ
  b : Bool
  p : String
  s : String
  r : Bool
  t : OrderTypeWire
  c : String
  deriving DecidableEq

inductive OrderGrouping where
  | na
  | positionTpsl
  deriving DecidableEq

def OrderGrouping.text : OrderGrouping → String
  | na => "na"
  | positionTpsl => "positionTpsl"

structure CancelByOidWire where
  a : ℤ
  o : ℤ
  deriving DecidableEq

structure CancelByCloidWire where
  asset : ℤ
  cloid : String
  deriving DecidableEq

inductive ExchangeAction where
  | order (orders : List OrderWire) (grouping : OrderGrouping)
  | modify (oid : ℤ) (order : OrderWire)
  | cancel (cancels : List CancelByOidWire)
  | cancelByCloid (cancels : List CancelByCloidWire)
  | updateLeverage (asset : ℤ) (isCross : Bool) (leverage : ℤ)
  deriving DecidableEq

def OrderTypeWire.toJson : OrderTypeWire → Json
  | .limit tif => .object [("limit", .object [("tif", .string tif.text)])]
  | .trigger triggerPx tpsl =>
    .object [("trigger", .object [("isMarket", .bool true),
      ("triggerPx", .string triggerPx), ("tpsl", .string tpsl.text)])]

def OrderWire.toJson (order : OrderWire) : Json :=
  .object [("a", .number order.a), ("b", .bool order.b), ("p", .string order.p),
    ("s", .string order.s), ("r", .bool order.r), ("t", order.t.toJson), ("c", .string order.c)]

def CancelByOidWire.toJson (cancel : CancelByOidWire) : Json :=
  .object [("a", .number cancel.a), ("o", .number cancel.o)]

def CancelByCloidWire.toJson (cancel : CancelByCloidWire) : Json :=
  .object [("asset", .number cancel.asset), ("cloid", .string cancel.cloid)]

def ExchangeAction.toJson : ExchangeAction → Json
  | .order orders grouping =>
    .object [("type", .string "order"), ("orders", .array (orders.map OrderWire.toJson)),
      ("grouping", .string grouping.text)]
  | .modify oid wire =>
    .object [("type", .string "modify"), ("oid", .number oid), ("order", wire.toJson)]
  | .cancel cancels =>
    .object [("type", .string "cancel"), ("cancels", .array (cancels.map CancelByOidWire.toJson))]
  | .cancelByCloid cancels =>
    .object [("type", .string "cancelByCloid"),
      ("cancels", .array (cancels.map CancelByCloidWire.toJson))]
  | .updateLeverage asset isCross leverage =>
    .object [("type", .string "updateLeverage"), ("asset", .number asset),
      ("isCross", .bool isCross), ("leverage", .number leverage)]

def maxBulkCancels : ℕ := 100

/-- `CANONICAL_POSITIVE_DECIMAL_PATTERN.test`: no sign, and no zero ends the
fraction. -/
def canonicalPositiveDecimal (value : String) : Bool :=
  match readDecimal value with
  | none => false
  | some text => !text.negative && text.fraction.getLast? != some '0'

/-- `ZERO_DECIMAL_PATTERN.test` -/
def zeroDecimal (value : String) : Bool :=
  match value.toList with
  | ['0'] => true
  | '0' :: '.' :: zeros => zeros.all (· == '0')
  | _ => false

def validateAssetId (assetId : ℤ) (path : String) : Outcome ℤ := do
  require (isSafeInteger assetId ∧ 0 ≤ assetId)
    (.validation path "expected a non-negative safe integer")
  pure assetId

def validatePositiveDecimal (value path : String) : Outcome String := do
  require (canonicalPositiveDecimal value = true ∧ zeroDecimal value = false)
    (.validation path "expected a positive canonical decimal string")
  pure value

def validateOid (oid : ℤ) (path : String) : Outcome ℤ := do
  require (isSafeInteger oid ∧ 0 ≤ oid)
    (.validation path "expected a non-negative safe integer order ID")
  pure oid

def orderWire (assetId : ℤ) (side : OrderSide) (price size : String)
    (reduceOnly : Bool) (tif : LimitTimeInForce) (cloid : String) :
    Outcome OrderWire := do
  let a ← validateAssetId assetId "assetId"
  let p ← validatePositiveDecimal price "price"
  let s ← validatePositiveDecimal size "size"
  let c ← parseCloid cloid "cloid"
  pure
    { a := a
      b := side == .buy
      p := p
      s := s
      r := reduceOnly
      t := .limit tif
      c := c }

/-- `positionTpslOrderWire`: the order follows the whole position, so its size on
the wire is zero. -/
def positionTpslOrderWire (intent : PositionTpslIntent) : Outcome OrderWire := do
  let _ ← validatePositiveDecimal intent.size "size"
  let a ← validateAssetId intent.assetId "assetId"
  let p ← validatePositiveDecimal intent.aggressiveLimitPrice
    "aggressiveLimitPrice"
  let triggerPx ← validatePositiveDecimal intent.triggerPrice "triggerPrice"
  let c ← parseCloid intent.cloid "cloid"
  pure
    { a := a
      b := intent.side == .buy
      p := p
      s := "0"
      r := true
      t := .trigger triggerPx
        (if intent.triggerKind = .takeProfit then .tp else .sl)
      c := c }

def singleOrderAction (order : OrderWire) : ExchangeAction := .order [order] .na

def buildMarketOrderAction (intent : MarketOrderIntent) :
    Outcome ExchangeAction := do
  let order ← orderWire intent.assetId intent.side intent.aggressiveLimitPrice
    intent.size false .ioc intent.cloid
  pure (singleOrderAction order)

def buildLimitOrderAction (intent : LimitOrderIntent) :
    Outcome ExchangeAction := do
  let order ← orderWire intent.assetId intent.side intent.limitPrice intent.size
    intent.reduceOnly intent.timeInForce intent.cloid
  pure (singleOrderAction order)

def buildReduceOnlyCloseAction (intent : ReduceOnlyCloseIntent) :
    Outcome ExchangeAction := do
  let order ← orderWire intent.assetId intent.side intent.aggressiveLimitPrice
    intent.size true .ioc intent.cloid
  pure (singleOrderAction order)

def buildPositionTpslAction (intent : PositionTpslIntent) :
    Outcome ExchangeAction := do
  let order ← positionTpslOrderWire intent
  match intent.existingOid with
  | none => pure (.order [order] .positionTpsl)
  | some existingOid => do
      let oid ← validateOid existingOid "existingOid"
      pure (.modify oid order)

def buildCancelAction (intent : CancelIntent) : Outcome ExchangeAction := do
  let assetId ← validateAssetId intent.assetId "assetId"
  match intent.target with
  | .oid orderId => do
      let oid ← validateOid orderId "target.oid"
      pure (.cancel [⟨assetId, oid⟩])
  | .cloid text => do
      let cloid ← parseCloid text "cloid"
      pure (.cancelByCloid [⟨assetId, cloid⟩])

def cancelPath (index : ℕ) (field : String) : String :=
  "cancels[" ++ toString index ++ "]." ++ field

def bulkOidWires : ℕ → List CancelIntent → Outcome (List CancelByOidWire)
  | _, [] => pure []
  | index, intent :: intents => do
      let orderId ← match intent.target with
        | .oid orderId => .ok orderId
        | .cloid _ => invalid (cancelPath index "target") "expected an order ID"
      let a ← validateAssetId intent.assetId (cancelPath index "assetId")
      let o ← validateOid orderId (cancelPath index "target.oid")
      let wires ← bulkOidWires (index + 1) intents
      pure (⟨a, o⟩ :: wires)

def bulkCloidWires : ℕ → List CancelIntent → Outcome (List CancelByCloidWire)
  | _, [] => pure []
  | index, intent :: intents => do
      let text ← match intent.target with
        | .oid _ =>
          invalid (cancelPath index "target") "expected a client order ID"
        | .cloid text => .ok text
      let asset ← validateAssetId intent.assetId (cancelPath index "assetId")
      let cloid ← parseCloid text (cancelPath index "target.cloid")
      let wires ← bulkCloidWires (index + 1) intents
      pure (⟨asset, cloid⟩ :: wires)

def CancelIntent.byOid (intent : CancelIntent) : Bool :=
  match intent.target with
  | .oid _ => true
  | .cloid _ => false

def buildBulkCancelAction (cancels : List CancelIntent) :
    Outcome ExchangeAction := do
  require (cancels ≠ [] ∧ cancels.length ≤ maxBulkCancels)
    (.validation "cancels" ("expected between 1 and " ++ toString maxBulkCancels ++
      " cancellations"))
  let byOid := cancels.head?.any CancelIntent.byOid
  require (∀ cancel ∈ cancels, cancel.byOid = byOid)
    (.validation "cancels" "cannot mix order IDs and client order IDs")
  if byOid then do
    let wires ← bulkOidWires 0 cancels
    pure (.cancel wires)
  else do
    let wires ← bulkCloidWires 0 cancels
    pure (.cancelByCloid wires)

def buildUpdateLeverageAction (intent : UpdateLeverageIntent) :
    Outcome ExchangeAction := do
  require (isSafeInteger intent.leverage ∧ 1 ≤ intent.leverage ∧ intent.leverage ≤ 100)
    (.validation "leverage" "expected an integer between 1 and 100")
  let asset ← validateAssetId intent.assetId "assetId"
  pure (.updateLeverage asset (intent.marginMode == .cross) intent.leverage)

def buildExchangeAction : TradingActionIntent → Outcome ExchangeAction
  | .marketOrder intent => buildMarketOrderAction intent
  | .limitOrder intent => buildLimitOrderAction intent
  | .reduceOnlyClose intent => buildReduceOnlyCloseAction intent
  | .positionTpsl intent => buildPositionTpslAction intent
  | .cancel intent => buildCancelAction intent
  | .bulkCancel cancels => buildBulkCancelAction cancels
  | .updateLeverage intent => buildUpdateLeverageAction intent

end HyperTrader
