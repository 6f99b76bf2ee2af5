import HyperTrader.Library.Entries
import HyperTrader.Markets.Catalog

/-!
# The published snapshot

A client reads a published catalog with limits of its own: on the number of entries,
on the length of every text, on every number. One entry that is refused refuses the
snapshot. The source returns the values it has checked; here they are read into the
types of the catalog.
-/

namespace HyperTrader

open Library Library.Json

namespace Snapshot

def invalid {α : Type} (path message : String) : Parsed α := .error ⟨path, message⟩

def record (value : Option Json) (path : String) : Parsed Json :=
  match value with
  | some (.object fields) => .ok (.object fields)
  | _ => invalid path "expected an object"

def exactKeys (value : Json) (path : String) (keys : List String) : Parsed Unit :=
  if value.keys.isPerm (keys.filter fun key => (value.field key).isSome) then .ok ()
  else invalid path "contains missing or unknown fields"

def exactRecord (value : Option Json) (path : String) (keys : List String) :
    Parsed Json := do
  let candidate ← record value path
  exactKeys candidate path keys
  pure candidate

def boundedArray (value : Option Json) (path : String) (maximum : ℕ) : Parsed (List Json) :=
  match value with
  | some (.array items) =>
    if items.length ≤ maximum then .ok items
    else invalid path
      ("expected an array with at most " ++ toString maximum ++ " entries")
  | _ => invalid path ("expected an array with at most " ++ toString maximum ++ " entries")

def fits (text : String) (maximum : ℕ) (allowEmpty : Bool) : Prop :=
  (allowEmpty = true ∨ text ≠ "") ∧ utf16Length text ≤ maximum

instance (text : String) (maximum : ℕ) (allowEmpty : Bool) :
    Decidable (fits text maximum allowEmpty) :=
  inferInstanceAs (Decidable (_ ∧ _))

def boundedString (value : Option Json) (path : String) (maximum : ℕ)
    (allowEmpty : Bool) : Parsed String :=
  match value with
  | some (.string text) =>
    if fits text maximum allowEmpty then .ok text
    else invalid path "expected a bounded string"
  | _ => invalid path "expected a bounded string"

def nullable {α : Type} (parse : Option Json → Parsed α) (value : Option Json) :
    Parsed (Option α) :=
  match value with
  | some .null => .ok none
  | value => (parse value).map some

def nullableBoundedString (value : Option Json) (path : String) (maximum : ℕ)
    (allowEmpty : Bool) : Parsed (Option String) :=
  nullable (fun value => boundedString value path maximum allowEmpty) value

def stringArray (value : Option Json) (path : String) (maximum : ℕ) :
    Parsed (List String) := do
  let entries ← boundedArray value path maximum
  entries.zipIdx.mapM fun entry =>
    boundedString (some entry.1) (Catalog.indexed path entry.2) 1024 false

def safeInteger (value : Option Json) (path : String) : Parsed ℤ :=
  match value with
  | some (.number n) =>
    if isSafeInteger n then .ok n else invalid path "expected a safe integer"
  | _ => invalid path "expected a safe integer"

def nonNegativeInteger (value : Option Json) (path : String) : Parsed ℤ :=
  match value with
  | some (.number n) =>
    if isSafeInteger n ∧ 0 ≤ n then .ok n
    else invalid path "expected a non-negative safe integer"
  | _ => invalid path "expected a non-negative safe integer"

def positiveInteger (value : Option Json) (path : String) : Parsed ℤ := do
  let parsed ← nonNegativeInteger value path
  if parsed < 1 then invalid path "expected a positive integer" else pure parsed

def nullableNonNegativeInteger (value : Option Json) (path : String) : Parsed (Option ℤ) :=
  nullable (fun value => nonNegativeInteger value path) value

def boolean (value : Option Json) (path : String) : Parsed Bool :=
  match value with
  | some (.bool b) => .ok b
  | _ => invalid path "expected a boolean"

def literalNull (value : Option Json) (path : String) : Parsed Unit :=
  match value with
  | some .null => .ok ()
  | _ => invalid path "expected null"

def oneOf {α : Type} (values : List (String × α)) (value : Option Json)
    (path message : String) : Parsed α :=
  match value with
  | some (.string text) =>
    match values.find? fun entry => entry.1 == text with
    | some entry => .ok entry.2
    | none => invalid path message
  | _ => invalid path message

def impactPrices (value : Option Json) (path : String) : Parsed (Option (String × String)) :=
  match value with
  | some .null => .ok none
  | some (.array [bid, ask]) => do
      let bid ← parseDecimalString (some bid) (path ++ "[0]")
      let ask ← parseDecimalString (some ask) (path ++ "[1]")
      pure (some (bid, ask))
  | _ => invalid path "expected exactly two prices"

def parseContext (value : Json) (path : String) : Parsed MarketContext := do
  let dayNtlVlm ← Catalog.optional parseDecimalString value "dayNtlVlm" path
  let dayBaseVlm ← Catalog.optional parseDecimalString value "dayBaseVlm" path
  let funding ← Catalog.optional parseDecimalString value "funding" path
  let markPx ← Catalog.optional parseDecimalString value "markPx" path
  let openInterest ← Catalog.optional parseDecimalString value "openInterest" path
  let oraclePx ← Catalog.optional parseDecimalString value "oraclePx" path
  let prevDayPx ← Catalog.optional parseDecimalString value "prevDayPx" path
  let midPx ← Catalog.optional parseNullableDecimalString value "midPx" path
  let premium ← Catalog.optional parseNullableDecimalString value "premium" path
  let impactPxs ← Catalog.optional impactPrices value "impactPxs" path
  pure
    { dayNtlVlm := dayNtlVlm
      dayBaseVlm := dayBaseVlm
      funding := funding
      impactPxs := impactPxs
      markPx := markPx
      midPx := midPx
      openInterest := openInterest
      oraclePx := oraclePx
      premium := premium
      prevDayPx := prevDayPx }

def lifecycle (value : Option Json) (path : String) : Parsed MarketLifecycle :=
  oneOf [("active", .active), ("delisted", .delisted)] value path
    "expected a supported lifecycle"

def parseBaseMarket (value : Json) (path : String) : Parsed BaseMarket := do
  let canonicalId ← boundedString (value.field "canonicalId")
    (path ++ ".canonicalId") 256 false
  let displaySymbol ← boundedString (value.field "displaySymbol")
    (path ++ ".displaySymbol") 256 false
  let coin ← boundedString (value.field "coin") (path ++ ".coin") 256 false
  let universeIndex ← nonNegativeInteger (value.field "universeIndex")
    (path ++ ".universeIndex")
  let orderAssetId ← nonNegativeInteger (value.field "orderAssetId")
    (path ++ ".orderAssetId")
  let lifecycle ← lifecycle (value.field "lifecycle") (path ++ ".lifecycle")
  let orderAvailability ← oneOf [("enabled", .enabled), ("browse_only", .browseOnly)]
    (value.field "orderAvailability") (path ++ ".orderAvailability")
    "expected a supported order availability"
  let validationReasons ← stringArray (value.field "validationReasons")
    (path ++ ".validationReasons") 64
  let context ← parseContext value path
  pure
    { canonicalId := canonicalId
      displaySymbol := displaySymbol
      coin := coin
      universeIndex := universeIndex
      orderAssetId := orderAssetId
      lifecycle := lifecycle
      orderAvailability := orderAvailability
      validationReasons := validationReasons
      context := context }

def parseTokenEvmContract (value : Option Json) (path : String) :
    Parsed TokenEvmContract := do
  let contract ← exactRecord value path ["address", "extraWeiDecimals"]
  let address ← boundedString (contract.field "address") (path ++ ".address") 42 false
  if lowercaseAddressPattern.test address then do
    let extraWeiDecimals ← safeInteger (contract.field "extraWeiDecimals")
      (path ++ ".extraWeiDecimals")
    if -255 ≤ extraWeiDecimals ∧ extraWeiDecimals ≤ 255 then
      pure { address := address, extraWeiDecimals := extraWeiDecimals }
    else
      invalid (path ++ ".extraWeiDecimals")
        "expected an integer between -255 and 255"
  else invalid (path ++ ".address") "expected a lowercase 20-byte EVM address"

def parseToken (value : Option Json) (path : String) : Parsed TokenIdentity := do
  let token ← exactRecord value path
    ["index", "tokenId", "name", "fullName", "sizeDecimals", "weiDecimals",
      "isCanonical", "evmContract"]
  let index ← nonNegativeInteger (token.field "index") (path ++ ".index")
  let tokenId ← boundedString (token.field "tokenId") (path ++ ".tokenId") 256 false
  let name ← boundedString (token.field "name") (path ++ ".name") 256 false
  let fullName ← nullableBoundedString (token.field "fullName") (path ++ ".fullName")
    256 false
  let sizeDecimals ← nonNegativeInteger (token.field "sizeDecimals")
    (path ++ ".sizeDecimals")
  let weiDecimals ← nonNegativeInteger (token.field "weiDecimals")
    (path ++ ".weiDecimals")
  let isCanonical ← boolean (token.field "isCanonical") (path ++ ".isCanonical")
  let evmContract ← nullable
    (fun value => parseTokenEvmContract value (path ++ ".evmContract"))
    (token.field "evmContract")
  pure
    { index := index
      tokenId := tokenId
      name := name
      fullName := fullName
      sizeDecimals := sizeDecimals
      weiDecimals := weiDecimals
      isCanonical := isCanonical
      evmContract := evmContract }

def parsePricePrecision (value : Option Json) (path : String)
    (expectedDecimalPlaces : ℤ) : Parsed PricePrecisionInputs := do
  let precision ← exactRecord value path ["maxSignificantFigures", "maxDecimalPlaces"]
  if precision.integer "maxSignificantFigures" = some 5 ∧
      precision.integer "maxDecimalPlaces" = some expectedDecimalPlaces then
    pure { maxSignificantFigures := 5, maxDecimalPlaces := expectedDecimalPlaces }
  else invalid path "price precision does not match market size precision"

def contextKeys : List String :=
  ["dayNtlVlm", "dayBaseVlm", "funding", "impactPxs", "markPx", "midPx",
    "openInterest", "oraclePx", "premium", "prevDayPx"]

def baseMarketKeys : List String :=
  ["family", "canonicalId", "displaySymbol", "coin", "universeIndex", "orderAssetId",
    "lifecycle", "orderAvailability", "validationReasons"] ++ contextKeys

def familyKeys : MarketFamily → List String
  | .perp =>
    ["dexIndex", "dexName", "dexFullName", "sizeDecimals", "pricePrecision",
      "maxLeverage", "onlyIsolated", "marginMode", "marginTableId"]
  | .spot =>
    ["dexIndex", "dexName", "sizeDecimals", "pricePrecision", "baseToken",
      "quoteToken", "isCanonical"]
  | .outcome =>
    ["dexIndex", "dexName", "outcome", "outcomeName", "description", "side",
      "sideName", "encoding", "sizeDecimals", "pricePrecision"]

def families : List (String × MarketFamily) :=
  [("perp", .perp), ("spot", .spot), ("outcome", .outcome)]

def parsePerpMarket (candidate : Json) (path : String) (base : BaseMarket) :
    Parsed PerpMarket := do
  let dexIndex ← nonNegativeInteger (candidate.field "dexIndex") (path ++ ".dexIndex")
  let dexName ← boundedString (candidate.field "dexName") (path ++ ".dexName") 128 true
  let dexFullName ← nullableBoundedString (candidate.field "dexFullName")
    (path ++ ".dexFullName") 256 false
  let sizeDecimals ← nonNegativeInteger (candidate.field "sizeDecimals")
    (path ++ ".sizeDecimals")
  if 6 < sizeDecimals then invalid (path ++ ".sizeDecimals") "exceeds perp precision"
  else do
    let pricePrecision ← parsePricePrecision (candidate.field "pricePrecision")
      (path ++ ".pricePrecision") (6 - sizeDecimals)
    let maxLeverage ← positiveInteger (candidate.field "maxLeverage")
      (path ++ ".maxLeverage")
    let onlyIsolated ← boolean (candidate.field "onlyIsolated")
      (path ++ ".onlyIsolated")
    let marginMode ← nullableBoundedString (candidate.field "marginMode")
      (path ++ ".marginMode") 128 false
    let marginTableId ← nullableNonNegativeInteger (candidate.field "marginTableId")
      (path ++ ".marginTableId")
    pure
      { toBaseMarket := base
        dexIndex := dexIndex
        dexName := dexName
        dexFullName := dexFullName
        sizeDecimals := sizeDecimals
        pricePrecision := pricePrecision
        maxLeverage := maxLeverage
        onlyIsolated := onlyIsolated
        marginMode := marginMode
        marginTableId := marginTableId }

def parseSpotMarket (candidate : Json) (path : String) (base : BaseMarket) :
    Parsed SpotMarket := do
  literalNull (candidate.field "dexIndex") (path ++ ".dexIndex")
  literalNull (candidate.field "dexName") (path ++ ".dexName")
  let sizeDecimals ← nonNegativeInteger (candidate.field "sizeDecimals")
    (path ++ ".sizeDecimals")
  if 8 < sizeDecimals then invalid (path ++ ".sizeDecimals") "exceeds spot precision"
  else do
    let pricePrecision ← parsePricePrecision (candidate.field "pricePrecision")
      (path ++ ".pricePrecision") (8 - sizeDecimals)
    let baseToken ← parseToken (candidate.field "baseToken") (path ++ ".baseToken")
    let quoteToken ← parseToken (candidate.field "quoteToken") (path ++ ".quoteToken")
    let isCanonical ← boolean (candidate.field "isCanonical") (path ++ ".isCanonical")
    pure
      { toBaseMarket := base
        sizeDecimals := sizeDecimals
        pricePrecision := pricePrecision
        baseToken := baseToken
        quoteToken := quoteToken
        isCanonical := isCanonical }

def outcomeSide (value : Option Json) (path : String) : Parsed (Fin 2) :=
  match value with
  | some (.number 0) => .ok ⟨0, by decide⟩
  | some (.number 1) => .ok ⟨1, by decide⟩
  | _ => invalid path "expected outcome side 0 or 1"

def parseOutcomeMarket (candidate : Json) (path : String) (base : BaseMarket) :
    Parsed OutcomeMarket := do
  literalNull (candidate.field "dexIndex") (path ++ ".dexIndex")
  literalNull (candidate.field "dexName") (path ++ ".dexName")
  let outcome ← nonNegativeInteger (candidate.field "outcome") (path ++ ".outcome")
  let outcomeName ← boundedString (candidate.field "outcomeName")
    (path ++ ".outcomeName") 256 false
  let description ← boundedString (candidate.field "description")
    (path ++ ".description") 4096 true
  let side ← outcomeSide (candidate.field "side") (path ++ ".side")
  let sideName ← boundedString (candidate.field "sideName") (path ++ ".sideName")
    256 false
  let encoding ← nonNegativeInteger (candidate.field "encoding") (path ++ ".encoding")
  literalNull (candidate.field "sizeDecimals") (path ++ ".sizeDecimals")
  literalNull (candidate.field "pricePrecision") (path ++ ".pricePrecision")
  pure
    { toBaseMarket := base
      outcome := outcome
      outcomeName := outcomeName
      description := description
      side := side
      sideName := sideName
      encoding := encoding }

def parseMarket (value : Json) (index : ℕ) : Parsed Market := do
  let path := Catalog.indexed "marketCatalogSnapshot.markets" index
  let candidate ← record (some value) path
  let family ← oneOf families (candidate.field "family") path
    "expected a supported market family"
  exactKeys candidate path (baseMarketKeys ++ familyKeys family)
  let base ← parseBaseMarket candidate path
  match family with
  | .perp => (parsePerpMarket candidate path base).map .perp
  | .spot => (parseSpotMarket candidate path base).map .spot
  | .outcome => (parseOutcomeMarket candidate path base).map .outcome

def parseQuarantinedMarket (value : Json) (index : ℕ) : Parsed QuarantinedMarket := do
  let path := Catalog.indexed "marketCatalogSnapshot.quarantined" index
  let candidate ← exactRecord (some value) path
    ["family", "canonicalId", "displaySymbol", "coin", "dexIndex", "dexName",
      "universeIndex", "orderAssetId", "lifecycle", "orderAvailability", "reasons"]
  let family ← oneOf families (candidate.field "family") (path ++ ".family")
    "expected a supported market family"
  let canonicalId ← boundedString (candidate.field "canonicalId")
    (path ++ ".canonicalId") 256 false
  let displaySymbol ← boundedString (candidate.field "displaySymbol")
    (path ++ ".displaySymbol") 256 false
  let coin ← boundedString (candidate.field "coin") (path ++ ".coin") 256 false
  let dexIndex ← nullableNonNegativeInteger (candidate.field "dexIndex")
    (path ++ ".dexIndex")
  let dexName ← nullableBoundedString (candidate.field "dexName")
    (path ++ ".dexName") 128 true
  let universeIndex ← nonNegativeInteger (candidate.field "universeIndex")
    (path ++ ".universeIndex")
  let orderAssetId ← nonNegativeInteger (candidate.field "orderAssetId")
    (path ++ ".orderAssetId")
  let lifecycle ← lifecycle (candidate.field "lifecycle") (path ++ ".lifecycle")
  let _ ← oneOf [("browse_only", ())] (candidate.field "orderAvailability")
    (path ++ ".orderAvailability") "expected browse_only"
  let reasons ← stringArray (candidate.field "reasons") (path ++ ".reasons") 64
  pure
    { family := family
      canonicalId := canonicalId
      displaySymbol := displaySymbol
      coin := coin
      dexIndex := dexIndex
      dexName := dexName
      universeIndex := universeIndex
      orderAssetId := orderAssetId
      lifecycle := lifecycle
      reasons := reasons }

def errorStatus (value : Option Json) (path : String) : Parsed ℤ := do
  let status ← positiveInteger value path
  if status < 400 ∨ 599 < status then invalid path "expected an HTTP error status"
  else pure status

def parseSourceError (value : Json) (index : ℕ) : Parsed CatalogSourceError := do
  let path := Catalog.indexed "marketCatalogSnapshot.sourceErrors" index
  let candidate ← record (some value) path
  exactKeys candidate path ["source", "message", "status", "retryAfterMs"]
  let source ← boundedString (candidate.field "source") (path ++ ".source") 256 false
  let message ← boundedString (candidate.field "message") (path ++ ".message") 1024
    false
  let status ← Catalog.optional errorStatus candidate "status" path
  let retryAfterMs ← Catalog.optional nonNegativeInteger candidate "retryAfterMs" path
  pure
    { source := source
      message := message
      status := status
      retryAfterMs := retryAfterMs }

def parseEntries {α : Type} (parse : Json → ℕ → Parsed α) (value : Option Json)
    (path : String) (maximum : ℕ) : Parsed (List α) := do
  let entries ← boundedArray value path maximum
  entries.zipIdx.mapM fun entry => parse entry.1 entry.2

end Snapshot

open Snapshot in
def parseMarketCatalogSnapshot (value : Json) : Parsed MarketCatalogSnapshot := do
  let path := "marketCatalogSnapshot"
  let source ← exactRecord (some value) path
    ["schemaVersion", "network", "generation", "publishedAtMs", "markets",
      "quarantined", "sourceErrors"]
  if source.integer "schemaVersion" = some 1 then do
    let network ← oneOf [("testnet", .testnet), ("mainnet", .mainnet)]
      (source.field "network") (path ++ ".network") "expected a supported network"
    let generation ← positiveInteger (source.field "generation")
      (path ++ ".generation")
    let publishedAtMs ← positiveInteger (source.field "publishedAtMs")
      (path ++ ".publishedAtMs")
    let markets ← parseEntries parseMarket (source.field "markets")
      (path ++ ".markets") 20000
    let quarantined ← parseEntries parseQuarantinedMarket (source.field "quarantined")
      (path ++ ".quarantined") 20000
    let sourceErrors ← parseEntries parseSourceError (source.field "sourceErrors")
      (path ++ ".sourceErrors") 2000
    pure
      { network := network
        generation := generation
        publishedAtMs := publishedAtMs
        catalog :=
          { markets := markets
            quarantined := quarantined
            sourceErrors := sourceErrors
            builderPage := none } }
  else Snapshot.invalid (path ++ ".schemaVersion") "expected version 1"

end HyperTrader
