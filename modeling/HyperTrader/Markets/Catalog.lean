import HyperTrader.Library.Decimal
import HyperTrader.Library.Double
import HyperTrader.Markets.Types

/-!
# Discovering the market catalog

What the exchange answers about its markets is read entry by entry. A perpetual or a
spot market that cannot be read is quarantined under the index it has so far, and the
others are kept; what cannot be read of a whole source is an error of that source. A
number of an answer that is not a safe integer stands for every other number, which
the reader refuses alike.
-/

namespace HyperTrader

open Library

namespace Catalog

/-! ### Reading an answer -/

def record (value : Option Json) (path : String) : Parsed Json :=
  match value with
  | some (.object fields) => .ok (.object fields)
  | _ => .error ⟨path, "expected an object"⟩

def array (value : Option Json) (path : String) : Parsed (List Json) :=
  match value with
  | some (.array items) => .ok items
  | _ => .error ⟨path, "expected an array"⟩

def string (value : Option Json) (path : String) : Parsed String :=
  match value with
  | some (.string text) =>
    if text = "" then .error ⟨path, "expected a non-empty string"⟩ else .ok text
  | _ => .error ⟨path, "expected a non-empty string"⟩

def integer (value : Option Json) (path : String) : Parsed ℤ :=
  match value with
  | some (.number n) =>
    if isSafeInteger n ∧ 0 ≤ n then .ok n
    else .error ⟨path, "expected a non-negative integer"⟩
  | _ => .error ⟨path, "expected a non-negative integer"⟩

def signedInteger (value : Option Json) (path : String) : Parsed ℤ :=
  match value with
  | some (.number n) =>
    if isSafeInteger n then .ok n else .error ⟨path, "expected an integer"⟩
  | _ => .error ⟨path, "expected an integer"⟩

def possiblyEmptyString (value : Option Json) (path : String) : Parsed String :=
  match value with
  | some (.string text) => .ok text
  | _ => .error ⟨path, "expected a string"⟩

def optionalBoolean (value : Option Json) (path : String) : Parsed Bool :=
  match value with
  | none => .ok false
  | some (.bool b) => .ok b
  | _ => .error ⟨path, "expected a boolean"⟩

def nullableString (value : Option Json) (path : String) : Parsed (Option String) :=
  match value with
  | none => .ok none
  | some .null => .ok none
  | value => (string value path).map some

end Catalog

def isDecimalString (text : String) : Bool := (readDecimal text).isSome

def parseDecimalString (value : Option Json) (path : String) : Parsed String :=
  match value with
  | some (.string text) =>
    if isDecimalString text then .ok text
    else .error ⟨path, "expected a decimal string"⟩
  | _ => .error ⟨path, "expected a decimal string"⟩

def parseNullableDecimalString (value : Option Json) (path : String) : Parsed (Option String) :=
  match value with
  | some .null => .ok none
  | value => (parseDecimalString value path).map some

namespace Catalog

def optional {α : Type} (parse : Option Json → String → Parsed α) (source : Json)
    (key path : String) : Parsed (Option α) :=
  match source.field key with
  | none => .ok none
  | some value => (parse (some value) (path ++ "." ++ key)).map some

def impactPrices (value : Option Json) (path : String) : Parsed (Option (String × String)) :=
  match value with
  | some .null => .ok none
  | value => do
      match ← array value path with
      | [bid, ask] => do
          let bid ← parseDecimalString (some bid) (path ++ "[0]")
          let ask ← parseDecimalString (some ask) (path ++ "[1]")
          pure (some (bid, ask))
      | _ => .error ⟨path, "expected two prices"⟩

def parseMarketContext (value : Option Json) (path : String) :
    Parsed MarketContext := do
  let source ← record value path
  let impactPxs ← optional impactPrices source "impactPxs" path
  let dayNtlVlm ← optional parseDecimalString source "dayNtlVlm" path
  let dayBaseVlm ← optional parseDecimalString source "dayBaseVlm" path
  let funding ← optional parseDecimalString source "funding" path
  let markPx ← optional parseDecimalString source "markPx" path
  let midPx ← optional parseNullableDecimalString source "midPx" path
  let openInterest ← optional parseDecimalString source "openInterest" path
  let oraclePx ← optional parseDecimalString source "oraclePx" path
  let premium ← optional parseNullableDecimalString source "premium" path
  let prevDayPx ← optional parseDecimalString source "prevDayPx" path
  pure
    { dayNtlVlm := dayNtlVlm
      dayBaseVlm := dayBaseVlm
      funding := funding
      impactPxs := impactPxs
      markPx := markPx
      midPx := midPx
      openInterest := openInterest
      oraclePx := oraclePx
      premium := premium
      prevDayPx := prevDayPx }

def indexed (path : String) (index : ℕ) : String :=
  path ++ "[" ++ toString index ++ "]"

def parseDex (value : Json) (index : ℕ) : Parsed DexDescriptor := do
  let path := indexed "perpDexs" index
  let source ← record (some value) path
  let name ← string (source.field "name") (path ++ ".name")
  let fullName ← nullableString (source.field "fullName") (path ++ ".fullName")
  pure { index := index, name := name, fullName := fullName }

def parseDexs (payload : Json) : Parsed (List DexDescriptor) := do
  match ← array (some payload) "perpDexs" with
  | [] => pure []
  | .null :: rest => (rest.zipIdx 1).mapM fun entry => parseDex entry.1 entry.2
  | _ => .error ⟨"perpDexs[0]", "expected the native DEX sentinel"⟩

/-! ### Perpetual markets -/

def afterColon (coin : String) : String :=
  if coin.toList.contains ':' then
    String.ofList ((coin.toList.dropWhile (· != ':')).drop 1)
  else coin

def perpCanonicalId (dexIndex universeIndex : ℤ) : String :=
  "perp:" ++ toString dexIndex ++ ":" ++ toString universeIndex

def perpOrderAssetId (dexIndex universeIndex : ℤ) : ℤ :=
  if dexIndex = 0 then universeIndex
  else 100000 + dexIndex * 10000 + universeIndex

def quarantinePerp (dex : DexDescriptor) (universeIndex : ℕ) (coin : String)
    (reasons : List String) (delisted : Bool) : QuarantinedMarket where
  family := .perp
  canonicalId := perpCanonicalId dex.index universeIndex
  displaySymbol := afterColon coin
  coin := coin
  dexIndex := some dex.index
  dexName := some dex.name
  universeIndex := universeIndex
  orderAssetId := perpOrderAssetId dex.index universeIndex
  lifecycle := if delisted then .delisted else .active
  reasons := reasons

def perpReasons (pricePrecision : Option PricePrecisionInputs) (isDelisted : Bool) : List String :=
  (if pricePrecision = none then ["invalid_sz_decimals"] else []) ++
    if isDelisted then ["delisted"] else []

/-- A perpetual market whose name has been read: it is a market, it is quarantined,
or it cannot be read. -/
def perpMarket (dex : DexDescriptor) (contexts : List Json) (asset : Json)
    (coin : String) (universeIndex : ℕ) :
    Parsed (Except QuarantinedMarket PerpMarket) := do
  let path := indexed ("perp(" ++ dex.name ++ ")") universeIndex
  let quarantine := quarantinePerp dex universeIndex coin
  let sizeDecimals ← integer (asset.field "szDecimals") (path ++ ".szDecimals")
  let precision := pricePrecisionForSizeDecimals .perp sizeDecimals
  let isDelisted ← optionalBoolean (asset.field "isDelisted") (path ++ ".isDelisted")
  match isDelisted, precision, contexts[universeIndex]? with
  | false, some pricePrecision, some rawContext => do
      let maxLeverage ← integer (asset.field "maxLeverage") (path ++ ".maxLeverage")
      if maxLeverage = 0 then
        pure (.error (quarantine ["invalid_max_leverage"] false))
      else do
        let context ← parseMarketContext (some rawContext)
          (indexed ("perpContext(" ++ dex.name ++ ")") universeIndex)
        let onlyIsolated ← optionalBoolean (asset.field "onlyIsolated")
          (path ++ ".onlyIsolated")
        let marginMode ← nullableString (asset.field "marginMode")
          (path ++ ".marginMode")
        let marginTableId ← optional integer asset "marginTableId" path
        pure (.ok
          { canonicalId := perpCanonicalId dex.index universeIndex
            displaySymbol := afterColon coin
            coin := coin
            universeIndex := universeIndex
            orderAssetId := perpOrderAssetId dex.index universeIndex
            lifecycle := .active
            orderAvailability := .enabled
            validationReasons := []
            context := context
            dexIndex := dex.index
            dexName := dex.name
            dexFullName := dex.fullName
            sizeDecimals := sizeDecimals
            pricePrecision := pricePrecision
            maxLeverage := maxLeverage
            onlyIsolated := onlyIsolated
            marginMode := marginMode
            marginTableId := marginTableId })
  | false, some _, none => pure (.error (quarantine ["missing_asset_context"] false))
  | isDelisted, precision, _ =>
    pure (.error (quarantine (perpReasons precision isDelisted) isDelisted))

def perpCoin (dex : DexDescriptor) (rawAsset : Json) (universeIndex : ℕ) :
    Parsed (Json × String) := do
  let path := indexed ("perp(" ++ dex.name ++ ")") universeIndex
  let asset ← record (some rawAsset) path
  let coin ← string (asset.field "name") (path ++ ".name")
  pure (asset, coin)

/-- An entry of the universe of a DEX: what cannot be read is quarantined, with the
text of the error. -/
def perpEntry (dex : DexDescriptor) (contexts : List Json) (rawAsset : Json)
    (universeIndex : ℕ) : Except QuarantinedMarket PerpMarket :=
  match perpCoin dex rawAsset universeIndex with
  | .error error => .error (quarantinePerp dex universeIndex
      ("unknown:" ++ toString universeIndex) [error.text] false)
  | .ok (asset, coin) =>
    match perpMarket dex contexts asset coin universeIndex with
    | .error error =>
      .error (quarantinePerp dex universeIndex coin [error.text] false)
    | .ok entry => entry

def metadataAndContexts (payload : Json) (path message : String) :
    Parsed (Json × Json) := do
  match ← array (some payload) path with
  | [metadata, contexts] => pure (metadata, contexts)
  | _ => .error ⟨path, message⟩

def quarantinedEntry {α : Type} : Except QuarantinedMarket α → Option QuarantinedMarket
  | .error market => some market
  | .ok _ => none

def settle {α : Type} (entries : List (Except QuarantinedMarket α)) :
    List α × List QuarantinedMarket :=
  (entries.filterMap Except.toOption, entries.filterMap quarantinedEntry)

def parsePerpSource (payload : Json) (dex : DexDescriptor) :
    Parsed (List PerpMarket × List QuarantinedMarket) := do
  let path := "metaAndAssetCtxs(" ++ dex.name ++ ")"
  let (metadata, rawContexts) ← metadataAndContexts payload path
    "expected metadata and contexts"
  let metadata ← record (some metadata) (path ++ "[0]")
  let listed ← array (metadata.field "universe") (path ++ ".universe")
  let contexts ← array (some rawContexts) (path ++ "[1]")
  pure (settle (listed.zipIdx.map fun entry => perpEntry dex contexts entry.1 entry.2))

/-! ### Spot markets -/

def parseEvmContract (value : Option Json) (path : String) : Parsed (Option TokenEvmContract) :=
  match value with
  | none => .ok none
  | some .null => .ok none
  | value => do
      let contract ← record value path
      let address ← string (contract.field "address") (path ++ ".address")
      if addressPattern.test address then do
        let extraWeiDecimals ← signedInteger (contract.field "evm_extra_wei_decimals")
          (path ++ ".evm_extra_wei_decimals")
        if -255 ≤ extraWeiDecimals ∧ extraWeiDecimals ≤ 255 then
          pure (some { address := asciiLower address, extraWeiDecimals := extraWeiDecimals })
        else
          .error ⟨path ++ ".evm_extra_wei_decimals", "expected an integer between -255 and 255"⟩
      else .error ⟨path ++ ".address", "expected a 20-byte EVM address"⟩

def parseToken (value : Json) (path : String) : Parsed TokenIdentity := do
  let token ← record (some value) path
  let index ← integer (token.field "index") (path ++ ".index")
  let tokenId ← string (token.field "tokenId") (path ++ ".tokenId")
  let name ← string (token.field "name") (path ++ ".name")
  let fullName ← nullableString (token.field "fullName") (path ++ ".fullName")
  let sizeDecimals ← integer (token.field "szDecimals") (path ++ ".szDecimals")
  let weiDecimals ← integer (token.field "weiDecimals") (path ++ ".weiDecimals")
  let isCanonical ← optionalBoolean (token.field "isCanonical")
    (path ++ ".isCanonical")
  let evmContract ← parseEvmContract (token.field "evmContract")
    (path ++ ".evmContract")
  pure
    { index := index
      tokenId := tokenId
      name := name
      fullName := fullName
      sizeDecimals := sizeDecimals
      weiDecimals := weiDecimals
      isCanonical := isCanonical
      evmContract := evmContract }

def tokenAt (tokens : List TokenIdentity) (index : ℤ) : Option TokenIdentity :=
  tokens.reverse.find? fun token => token.index == index

def parseSpotMarketContext (contexts : List Json) (universeIndex : ℤ)
    (coin : String) : Parsed MarketContext := do
  let path := "spotContext[" ++ toString universeIndex ++ "]"
  match contexts[universeIndex.toNat]? with
  | none => .error ⟨path, "missing_asset_context"⟩
  | some value => do
      let source ← record (some value) path
      match source.field "coin" with
      | none => pure ()
      | some named => do
          let name ← string (some named) (path ++ ".coin")
          if name = coin then pure ()
          else .error ⟨path ++ ".coin", "expected context for " ++ coin⟩
      parseMarketContext (some value) path

def spotOrderAssetId (universeIndex : ℤ) : ℤ := addNumber 10000 universeIndex

def quarantineSpot (universeIndex : ℤ) (coin : String) (error : ValidationError) :
    QuarantinedMarket where
  family := .spot
  canonicalId := "spot:" ++ toString universeIndex
  displaySymbol := coin
  coin := coin
  dexIndex := none
  dexName := none
  universeIndex := universeIndex
  orderAssetId := spotOrderAssetId universeIndex
  lifecycle := .active
  reasons := [error.text]

def spotTokens (tokens : List TokenIdentity) (source : Json) (path : String) :
    Parsed (TokenIdentity × TokenIdentity) := do
  match ← array (source.field "tokens") (path ++ ".tokens") with
  | [base, quote] => do
      let baseIndex ← integer (some base) "spot base token"
      let quoteIndex ← integer (some quote) "spot quote token"
      match tokenAt tokens baseIndex, tokenAt tokens quoteIndex with
      | some baseToken, some quoteToken => pure (baseToken, quoteToken)
      | _, _ => .error ⟨path ++ ".tokens", "references an unknown token"⟩
  | _ => .error ⟨path ++ ".tokens", "expected base and quote token indexes"⟩

def spotMarket (tokens : List TokenIdentity) (contexts : List Json) (source : Json)
    (universeIndex : ℤ) (coin : String) (path : String) : Parsed SpotMarket := do
  let (baseToken, quoteToken) ← spotTokens tokens source path
  match pricePrecisionForSizeDecimals .spot baseToken.sizeDecimals with
  | none => .error ⟨path, "invalid_sz_decimals"⟩
  | some pricePrecision => do
      let context ← parseSpotMarketContext contexts universeIndex coin
      let isCanonical ← optionalBoolean (source.field "isCanonical")
        (path ++ ".isCanonical")
      pure
        { canonicalId := "spot:" ++ toString universeIndex
          displaySymbol := baseToken.name
          coin := coin
          universeIndex := universeIndex
          orderAssetId := spotOrderAssetId universeIndex
          lifecycle := .active
          orderAvailability := .enabled
          validationReasons := []
          context := context
          sizeDecimals := baseToken.sizeDecimals
          pricePrecision := pricePrecision
          baseToken := baseToken
          quoteToken := quoteToken
          isCanonical := isCanonical }

def spotIndex (rawMarket : Json) (path : String) : Parsed (Json × ℤ) := do
  let source ← record (some rawMarket) path
  let universeIndex ← integer (source.field "index") (path ++ ".index")
  pure (source, universeIndex)

/-- An entry of the spot universe: what cannot be read is quarantined under the index
and the name that were read before. -/
def spotEntry (tokens : List TokenIdentity) (contexts : List Json) (rawMarket : Json)
    (fallbackIndex : ℕ) : Except QuarantinedMarket SpotMarket :=
  let path := indexed "spotMeta.universe" fallbackIndex
  let fallback := "@" ++ toString fallbackIndex
  match spotIndex rawMarket path with
  | .error error => .error (quarantineSpot fallbackIndex fallback error)
  | .ok (source, universeIndex) =>
    match string (source.field "name") (path ++ ".name") with
    | .error error => .error (quarantineSpot universeIndex fallback error)
    | .ok coin =>
      match spotMarket tokens contexts source universeIndex coin path with
      | .error error => .error (quarantineSpot universeIndex coin error)
      | .ok market => .ok market

def parseSpotSource (payload : Json) :
    Parsed (List SpotMarket × List QuarantinedMarket) := do
  let path := "spotMetaAndAssetCtxs"
  let (metadata, rawContexts) ← metadataAndContexts payload path
    "expected metadata and contexts"
  let metadata ← record (some metadata) (path ++ "[0]")
  let rawTokens ← array (metadata.field "tokens") "spotMeta.tokens"
  let tokens ← rawTokens.zipIdx.mapM fun entry =>
    parseToken entry.1 (indexed "spotMeta.tokens" entry.2)
  let listed ← array (metadata.field "universe") "spotMeta.universe"
  let contexts ← array (some rawContexts) (path ++ "[1]")
  pure (settle (listed.zipIdx.map fun entry => spotEntry tokens contexts entry.1 entry.2))

/-! ### Outcome markets -/

/-- One side of an outcome. An encoding that is not a safe integer is rounded; its
text is written here in full, while the source writes its shortest digits. -/
def outcomeSide (outcomeId : ℤ) (outcomeName description : String) (path : String)
    (rawSide : Json) (side : Fin 2) : Parsed OutcomeMarket := do
  let path := indexed (path ++ ".sideSpecs") side
  let sideSpec ← record (some rawSide) path
  let encoding : ℤ := nearestDouble (nearestDouble (10 * outcomeId.toNat) + side)
  let name ← string (sideSpec.field "name") (path ++ ".name")
  pure
    { canonicalId := "outcome:" ++ toString outcomeId ++ ":" ++ toString (side : ℕ)
      displaySymbol := name
      coin := "#" ++ toString encoding
      universeIndex := encoding
      orderAssetId := nearestDouble (100000000 + encoding.toNat)
      lifecycle := .active
      orderAvailability := .browseOnly
      validationReasons := ["precision_not_provided_by_outcome_metadata"]
      context := ⟨none, none, none, none, none, none, none, none, none, none⟩
      outcome := outcomeId
      outcomeName := outcomeName
      description := description
      side := side
      sideName := name
      encoding := encoding }

def parseOutcome (rawOutcome : Json) (outcomeIndex : ℕ) :
    Parsed (List OutcomeMarket) := do
  let path := indexed "outcomeMeta.outcomes" outcomeIndex
  let outcome ← record (some rawOutcome) path
  let outcomeId ← integer (outcome.field "outcome") (path ++ ".outcome")
  let outcomeName ← string (outcome.field "name") (path ++ ".name")
  let description ← possiblyEmptyString (outcome.field "description")
    (path ++ ".description")
  match ← array (outcome.field "sideSpecs") (path ++ ".sideSpecs") with
  | [first, second] => do
      let first ← outcomeSide outcomeId outcomeName description path first 0
      let second ← outcomeSide outcomeId outcomeName description path second 1
      pure [first, second]
  | _ => .error ⟨path ++ ".sideSpecs", "expected exactly two sides"⟩

def parseOutcomeSource (payload : Json) : Parsed (List OutcomeMarket) := do
  let source ← record (some payload) "outcomeMeta"
  let outcomes ← array (source.field "outcomes") "outcomeMeta.outcomes"
  let markets ← outcomes.zipIdx.mapM fun entry => parseOutcome entry.1 entry.2
  pure markets.flatten

end Catalog

/-! ### Discovery -/

inductive CatalogScope where
  | complete
  | core
  | native
  | spot
  | incremental (builderDexOffset builderDexLimit : ℤ)
  deriving DecidableEq

inductive InfoRequest where
  | perpDexs
  | metaAndAssetCtxs (dex : Option String)
  | spotMetaAndAssetCtxs
  | outcomeMeta

/-- A request that failed: the text of its error, and the status and the delay of an
API error. -/
structure RequestFailure where
  message : String
  status : Option ℤ
  retryAfterMs : Option ℤ

/-- The transport: its network, and what it answers to `perpDexs` and to each of the
requests of the sources. -/
structure InfoTransport where
  network : HyperliquidNetwork
  perpDexs : Except RequestFailure Json
  answer : ℕ → InfoRequest → Except RequestFailure Json

inductive SourceKind where
  | perp (dex : DexDescriptor)
  | spot
  | outcome

structure CatalogSource where
  source : String
  kind : SourceKind
  request : InfoRequest

structure SettledSource where
  perps : List PerpMarket
  spots : List SpotMarket
  outcomes : List OutcomeMarket
  quarantinedPerps : List QuarantinedMarket
  quarantinedSpots : List QuarantinedMarket
  errors : List CatalogSourceError

namespace Catalog

def maxIncrementalBuilderDexes : ℤ := 37

def nativeDex : DexDescriptor := { index := 0, name := "", fullName := none }

def requestError (source : String) (failure : RequestFailure) : CatalogSourceError :=
  { source := source
    message := failure.message
    status := failure.status
    retryAfterMs := failure.retryAfterMs }

def parseError (source : String) (error : ValidationError) : CatalogSourceError :=
  { source := source, message := error.text, status := none, retryAfterMs := none }

def asksForDexes : CatalogScope → Bool
  | .complete => true
  | .incremental _ _ => true
  | .core => false
  | .native => false
  | .spot => false

def discoverDexes (transport : InfoTransport) (scope : CatalogScope) :
    List DexDescriptor × List CatalogSourceError :=
  if asksForDexes scope then
    match transport.perpDexs with
    | .error failure => ([nativeDex], [requestError "perpDexs" failure])
    | .ok payload =>
      match parseDexs payload with
      | .error error => ([nativeDex], [parseError "perpDexs" error])
      | .ok dexes => (nativeDex :: dexes, [])
  else ([nativeDex], [])

def builderDexes (scope : CatalogScope) (dexes : List DexDescriptor) : List DexDescriptor :=
  match scope with
  | .complete => dexes.drop 1
  | .incremental offset limit => (dexes.drop (1 + offset.toNat)).take limit.toNat
  | .core => []
  | .native => []
  | .spot => []

def sources (network : HyperliquidNetwork) (scope : CatalogScope)
    (builders : List DexDescriptor) : List CatalogSource :=
  (if scope = .spot then [] else
    [⟨"metaAndAssetCtxs:native", .perp nativeDex, .metaAndAssetCtxs none⟩]) ++
  (if scope = .native then [] else ⟨"spotMetaAndAssetCtxs", .spot, .spotMetaAndAssetCtxs⟩ ::
      if network = .testnet ∧ scope ≠ .spot then [⟨"outcomeMeta", .outcome, .outcomeMeta⟩]
      else []) ++
  builders.map fun dex =>
    ⟨"metaAndAssetCtxs:" ++ (if dex.name = "" then "native" else dex.name), .perp dex,
      .metaAndAssetCtxs (some dex.name)⟩

def noSource : SettledSource := ⟨[], [], [], [], [], []⟩

def settleSource (source : CatalogSource) (answer : Except RequestFailure Json) : SettledSource :=
  match answer with
  | .error failure => { noSource with errors := [requestError source.source failure] }
  | .ok payload =>
    match source.kind with
    | .perp dex =>
      match parsePerpSource payload dex with
      | .error error => { noSource with errors := [parseError source.source error] }
      | .ok (markets, quarantined) =>
        { noSource with perps := markets, quarantinedPerps := quarantined }
    | .spot =>
      match parseSpotSource payload with
      | .error error => { noSource with errors := [parseError source.source error] }
      | .ok (markets, quarantined) =>
        { noSource with spots := markets, quarantinedSpots := quarantined }
    | .outcome =>
      match parseOutcomeSource payload with
      | .error error => { noSource with errors := [parseError source.source error] }
      | .ok markets => { noSource with outcomes := markets }

def builderPage (scope : CatalogScope) (dexes builders : List DexDescriptor) :
    Option MarketCatalogBuilderPage :=
  match scope with
  | .incremental offset limit => some
      { offset := offset
        limit := limit
        total := max 0 ((dexes.length : ℤ) - 1)
        dexes := builders }
  | _ => none

def checkScope : CatalogScope → Parsed Unit
  | .incremental offset limit =>
    if isSafeInteger offset ∧ 0 ≤ offset then
      if isSafeInteger limit ∧ 1 ≤ limit ∧ limit ≤ maxIncrementalBuilderDexes then
        .ok ()
      else .error ⟨"marketCatalog.builderDexLimit", "expected an integer between 1 and 37"⟩
    else .error ⟨"marketCatalog.builderDexOffset", "expected a non-negative integer"⟩
  | _ => .ok ()

end Catalog

open Catalog in
def discoverMarketCatalog (transport : InfoTransport) (scope : CatalogScope) :
    Parsed MarketCatalog := do
  checkScope scope
  let (dexes, dexErrors) := discoverDexes transport scope
  let builders := builderDexes scope dexes
  let settled := (sources transport.network scope builders).zipIdx.map fun entry =>
    settleSource entry.1 (transport.answer entry.2 entry.1.request)
  pure
    { markets := (settled.flatMap SettledSource.perps).map .perp ++
        (settled.flatMap SettledSource.spots).map .spot ++
        (settled.flatMap SettledSource.outcomes).map .outcome
      quarantined := settled.flatMap SettledSource.quarantinedPerps ++
        settled.flatMap SettledSource.quarantinedSpots
      sourceErrors := dexErrors ++ settled.flatMap SettledSource.errors
      builderPage := builderPage scope dexes builders }

end HyperTrader
