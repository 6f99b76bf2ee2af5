import HyperTrader.Actions.Validation
import HyperTrader.Library.Record

/-!
# Markets and their catalog

The markets of the three families, the markets that were quarantined, and the
catalog of both. A key that an object may leave out is an option; a value that may be
`null` besides is an option in it. The literal `browse_only` of a quarantined market
and the two nulls of a market without a DEX are the only values they have, and are
left to the text.
-/

namespace HyperTrader

open Library

/-- `HyperliquidValidationError` -/
structure ValidationError where
  path : String
  message : String
  deriving DecidableEq

def ValidationError.text (error : ValidationError) : String :=
  error.path ++ ": " ++ error.message

abbrev Parsed (α : Type) := Except ValidationError α

structure MarketContext where
  dayNtlVlm : Option String
  dayBaseVlm : Option String
  funding : Option String
  impactPxs : Option (Option (String × String))
  markPx : Option String
  midPx : Option (Option String)
  openInterest : Option String
  oraclePx : Option String
  premium : Option (Option String)
  prevDayPx : Option String
  deriving DecidableEq

structure TokenEvmContract where
  address : String
  extraWeiDecimals : ℤ
  deriving DecidableEq

structure TokenIdentity where
  index : ℤ
  tokenId : String
  name : String
  fullName : Option String
  sizeDecimals : ℤ
  weiDecimals : ℤ
  isCanonical : Bool
  evmContract : Option TokenEvmContract
  deriving DecidableEq

structure BaseMarket where
  canonicalId : String
  displaySymbol : String
  coin : String
  universeIndex : ℤ
  orderAssetId : ℤ
  lifecycle : MarketLifecycle
  orderAvailability : OrderAvailability
  validationReasons : List String
  context : MarketContext
  deriving DecidableEq

structure PerpMarket extends BaseMarket where
  dexIndex : ℤ
  dexName : String
  dexFullName : Option String
  sizeDecimals : ℤ
  pricePrecision : PricePrecisionInputs
  maxLeverage : ℤ
  onlyIsolated : Bool
  marginMode : Option String
  marginTableId : Option ℤ
  deriving DecidableEq

structure SpotMarket extends BaseMarket where
  sizeDecimals : ℤ
  pricePrecision : PricePrecisionInputs
  baseToken : TokenIdentity
  quoteToken : TokenIdentity
  isCanonical : Bool
  deriving DecidableEq

structure OutcomeMarket extends BaseMarket where
  outcome : ℤ
  outcomeName : String
  description : String
  side : Fin 2
  sideName : String
  encoding : ℤ
  deriving DecidableEq

inductive Market where
  | perp (market : PerpMarket)
  | spot (market : SpotMarket)
  | outcome (market : OutcomeMarket)
  deriving DecidableEq

def Market.pricePrecision : Market → Option PricePrecisionInputs
  | .perp market => some market.pricePrecision
  | .spot market => some market.pricePrecision
  | .outcome _ => none

def Market.base : Market → BaseMarket
  | .perp market => market.toBaseMarket
  | .spot market => market.toBaseMarket
  | .outcome market => market.toBaseMarket

structure QuarantinedMarket where
  family : MarketFamily
  canonicalId : String
  displaySymbol : String
  coin : String
  dexIndex : Option ℤ
  dexName : Option String
  universeIndex : ℤ
  orderAssetId : ℤ
  lifecycle : MarketLifecycle
  reasons : List String
  deriving DecidableEq

structure CatalogSourceError where
  source : String
  message : String
  status : Option ℤ
  retryAfterMs : Option ℤ
  deriving DecidableEq

structure DexDescriptor where
  index : ℤ
  name : String
  fullName : Option String
  deriving DecidableEq

structure MarketCatalogBuilderPage where
  offset : ℤ
  limit : ℤ
  total : ℤ
  dexes : List DexDescriptor
  deriving DecidableEq

structure MarketCatalog where
  markets : List Market
  quarantined : List QuarantinedMarket
  sourceErrors : List CatalogSourceError
  builderPage : Option MarketCatalogBuilderPage
  deriving DecidableEq

structure MarketCatalogSnapshot where
  network : HyperliquidNetwork
  generation : ℤ
  publishedAtMs : ℤ
  catalog : MarketCatalog
  deriving DecidableEq

def MarketFamily.text : MarketFamily → String
  | perp => "perp"
  | spot => "spot"
  | outcome => "outcome"

def MarketLifecycle.text : MarketLifecycle → String
  | active => "active"
  | delisted => "delisted"

def OrderAvailability.text : OrderAvailability → String
  | enabled => "enabled"
  | browseOnly => "browse_only"

open Json

def PricePrecisionInputs.fields (precision : PricePrecisionInputs) : List (String × Option Json) :=
  definite
    [("maxSignificantFigures", .number precision.maxSignificantFigures),
      ("maxDecimalPlaces", .number precision.maxDecimalPlaces)]

def PricePrecisionInputs.toJson (precision : PricePrecisionInputs) : Json :=
  ofFields precision.fields

namespace MarketContext

def impactJson (prices : String × String) : Json :=
  .array [.string prices.1, .string prices.2]

def fields (context : MarketContext) : List (String × Option Json) :=
  [("dayNtlVlm", context.dayNtlVlm.map .string), ("dayBaseVlm", context.dayBaseVlm.map .string),
    ("funding", context.funding.map .string),
    ("impactPxs", context.impactPxs.map (ofNullable impactJson)),
    ("markPx", context.markPx.map .string), ("midPx", context.midPx.map (ofNullable .string)),
    ("openInterest", context.openInterest.map .string), ("oraclePx", context.oraclePx.map .string),
    ("premium", context.premium.map (ofNullable .string)),
    ("prevDayPx", context.prevDayPx.map .string)]

end MarketContext

def TokenEvmContract.fields (contract : TokenEvmContract) : List (String × Option Json) :=
  definite
    [("address", .string contract.address), ("extraWeiDecimals", .number contract.extraWeiDecimals)]

def TokenEvmContract.toJson (contract : TokenEvmContract) : Json := ofFields contract.fields

def TokenIdentity.fields (token : TokenIdentity) : List (String × Option Json) :=
  definite
    [("index", .number token.index), ("tokenId", .string token.tokenId),
      ("name", .string token.name), ("fullName", ofNullable .string token.fullName),
      ("sizeDecimals", .number token.sizeDecimals), ("weiDecimals", .number token.weiDecimals),
      ("isCanonical", .bool token.isCanonical),
      ("evmContract", ofNullable TokenEvmContract.toJson token.evmContract)]

def TokenIdentity.toJson (token : TokenIdentity) : Json := ofFields token.fields

def PerpMarket.fields (market : PerpMarket) : List (String × Option Json) :=
  definite
    [("family", .string MarketFamily.perp.text), ("canonicalId", .string market.canonicalId),
      ("displaySymbol", .string market.displaySymbol), ("coin", .string market.coin),
      ("dexIndex", .number market.dexIndex), ("dexName", .string market.dexName),
      ("dexFullName", ofNullable .string market.dexFullName),
      ("universeIndex", .number market.universeIndex),
      ("orderAssetId", .number market.orderAssetId), ("sizeDecimals", .number market.sizeDecimals),
      ("pricePrecision", market.pricePrecision.toJson), ("maxLeverage", .number market.maxLeverage),
      ("onlyIsolated", .bool market.onlyIsolated),
      ("marginMode", ofNullable .string market.marginMode),
      ("marginTableId", ofNullable .number market.marginTableId),
      ("lifecycle", .string market.lifecycle.text),
      ("orderAvailability", .string market.orderAvailability.text),
      ("validationReasons", .array (market.validationReasons.map .string))] ++
    market.context.fields

def SpotMarket.fields (market : SpotMarket) : List (String × Option Json) :=
  definite
    [("family", .string MarketFamily.spot.text), ("canonicalId", .string market.canonicalId),
      ("displaySymbol", .string market.displaySymbol), ("coin", .string market.coin),
      ("dexIndex", .null), ("dexName", .null), ("universeIndex", .number market.universeIndex),
      ("orderAssetId", .number market.orderAssetId), ("sizeDecimals", .number market.sizeDecimals),
      ("pricePrecision", market.pricePrecision.toJson), ("baseToken", market.baseToken.toJson),
      ("quoteToken", market.quoteToken.toJson), ("isCanonical", .bool market.isCanonical),
      ("lifecycle", .string market.lifecycle.text),
      ("orderAvailability", .string market.orderAvailability.text),
      ("validationReasons", .array (market.validationReasons.map .string))] ++
    market.context.fields

def OutcomeMarket.fields (market : OutcomeMarket) : List (String × Option Json) :=
  definite
    [("family", .string MarketFamily.outcome.text), ("canonicalId", .string market.canonicalId),
      ("displaySymbol", .string market.displaySymbol), ("coin", .string market.coin),
      ("dexIndex", .null), ("dexName", .null), ("universeIndex", .number market.universeIndex),
      ("orderAssetId", .number market.orderAssetId), ("lifecycle", .string market.lifecycle.text),
      ("orderAvailability", .string market.orderAvailability.text),
      ("validationReasons", .array (market.validationReasons.map .string)),
      ("outcome", .number market.outcome), ("outcomeName", .string market.outcomeName),
      ("description", .string market.description), ("side", .number (market.side : ℕ)),
      ("sideName", .string market.sideName), ("encoding", .number market.encoding),
      ("sizeDecimals", .null), ("pricePrecision", .null)] ++
    market.context.fields

def Market.toJson : Market → Json
  | .perp market => ofFields market.fields
  | .spot market => ofFields market.fields
  | .outcome market => ofFields market.fields

def QuarantinedMarket.fields (market : QuarantinedMarket) : List (String × Option Json) :=
  definite
    [("family", .string market.family.text), ("canonicalId", .string market.canonicalId),
      ("displaySymbol", .string market.displaySymbol), ("coin", .string market.coin),
      ("dexIndex", ofNullable .number market.dexIndex),
      ("dexName", ofNullable .string market.dexName),
      ("universeIndex", .number market.universeIndex),
      ("orderAssetId", .number market.orderAssetId), ("lifecycle", .string market.lifecycle.text),
      ("orderAvailability", .string OrderAvailability.browseOnly.text),
      ("reasons", .array (market.reasons.map .string))]

def QuarantinedMarket.toJson (market : QuarantinedMarket) : Json := ofFields market.fields

def CatalogSourceError.fields (error : CatalogSourceError) : List (String × Option Json) :=
  [("source", some (.string error.source)), ("message", some (.string error.message)),
    ("status", error.status.map .number), ("retryAfterMs", error.retryAfterMs.map .number)]

def CatalogSourceError.toJson (error : CatalogSourceError) : Json := ofFields error.fields

def MarketCatalogSnapshot.fields (snapshot : MarketCatalogSnapshot) : List (String × Option Json) :=
  definite
    [("schemaVersion", .number 1), ("network", .string snapshot.network.text),
      ("generation", .number snapshot.generation),
      ("publishedAtMs", .number snapshot.publishedAtMs),
      ("markets", .array (snapshot.catalog.markets.map Market.toJson)), ("quarantined",
        .array (snapshot.catalog.quarantined.map QuarantinedMarket.toJson)), ("sourceErrors",
        .array (snapshot.catalog.sourceErrors.map CatalogSourceError.toJson))]

def MarketCatalogSnapshot.toJson (snapshot : MarketCatalogSnapshot) : Json :=
  ofFields snapshot.fields

end HyperTrader
