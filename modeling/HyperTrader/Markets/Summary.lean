import HyperTrader.Markets.Snapshot
import Mathlib.Data.List.Lex

/-!
# Market summaries and their pages

The API answers with the markets of the published catalog a page at a time. Each request
selects and sorts the summaries again; a cursor is an offset in them, bound to the
generation of the catalog. The client reads a page with checks of its own.
-/

namespace HyperTrader

open Library Library.Json

structure MarketSummaryToken where
  tokenId : String
  name : String
  fullName : Option String

structure BaseMarketSummary where
  canonicalId : String
  displaySymbol : String
  coin : String
  lifecycle : MarketLifecycle
  orderAvailability : OrderAvailability
  pricePrecision : Option PricePrecisionInputs
  dayNtlVlm : Option String
  funding : Option String
  markPx : Option String
  midPx : Option (Option String)
  openInterest : Option String
  prevDayPx : Option String

/-- What a summary has of its family: `PerpMarketSummary`, `SpotMarketSummary` and
`OutcomeMarketSummary`. -/
inductive FamilySummary where
  | perp (dexIndex : ℤ) (dexName : String) (dexFullName : Option String)
      (maxLeverage : ℤ)
  | spot (baseToken quoteToken : MarketSummaryToken)
  | outcome (outcome : ℤ) (outcomeName description sideName : String)

structure MarketSummary extends BaseMarketSummary where
  details : FamilySummary

inductive SummaryMetric where
  | volume
  | priceChange
  | funding
  | openInterest

inductive MarketSummarySort where
  | symbol
  | metric (metric : SummaryMetric)

structure MarketSummaryQuery where
  query : String
  family : Option MarketFamily
  includeHip3 : Bool
  availability : Option OrderAvailability
  lifecycle : Option MarketLifecycle
  sort : MarketSummarySort
  ids : List String
  cursor : Option String
  limit : ℤ

structure MarketSummaryPage where
  network : HyperliquidNetwork
  generation : ℤ
  publishedAtMs : ℤ
  items : List MarketSummary
  total : ℤ
  nextCursor : Option String
  quarantinedCount : ℤ
  sourceErrorCount : ℤ

/-- What the functions of the summaries throw: a validation error, the
`MarketSummaryGenerationChangedError` and the `ContractError`. -/
inductive SummaryFailure where
  | validation (error : ValidationError)
  | generationChanged
  | contract (message : String)

/-- The functions of the language on Unicode text that a search relies on:
`normalize("NFKC")` and `toLocaleLowerCase("en-US")`. -/
structure UnicodeText where
  nfkc : String → String
  toLocaleLowerCase : String → String

/-! ### A summary -/

def PerpMarket.summary (market : PerpMarket) : FamilySummary :=
  .perp market.dexIndex market.dexName market.dexFullName market.maxLeverage

def TokenIdentity.summary (token : TokenIdentity) : MarketSummaryToken where
  tokenId := token.tokenId
  name := token.name
  fullName := token.fullName

def SpotMarket.summary (market : SpotMarket) : FamilySummary :=
  .spot market.baseToken.summary market.quoteToken.summary

def OutcomeMarket.summary (market : OutcomeMarket) : FamilySummary :=
  .outcome market.outcome market.outcomeName market.description market.sideName

def marketSummaryFromMarket (market : Market) : MarketSummary where
  canonicalId := market.base.canonicalId
  displaySymbol := market.base.displaySymbol
  coin := market.base.coin
  lifecycle := market.base.lifecycle
  orderAvailability := market.base.orderAvailability
  pricePrecision := market.pricePrecision
  dayNtlVlm := market.base.context.dayNtlVlm
  funding := market.base.context.funding
  markPx := market.base.context.markPx
  midPx := market.base.context.midPx
  openInterest := market.base.context.openInterest
  prevDayPx := market.base.context.prevDayPx
  details := match market with
    | .perp market => market.summary
    | .spot market => market.summary
    | .outcome market => market.summary

namespace MarketSummary

def family (market : MarketSummary) : MarketFamily :=
  match market.details with
  | .perp .. => .perp
  | .spot .. => .spot
  | .outcome .. => .outcome

/-- `summaryLabel` -/
def label (market : MarketSummary) : String :=
  match market.details with
  | .perp .. => market.displaySymbol
  | .spot baseToken quoteToken => baseToken.name ++ "/" ++ quoteToken.name
  | .outcome _ outcomeName _ sideName => outcomeName ++ " " ++ sideName

def venueLabel (market : MarketSummary) : String :=
  match market.details with
  | .perp dexIndex dexName dexFullName _ =>
    if dexIndex = 0 ∨ dexName = "" then "native" else dexFullName.getD dexName
  | .spot .. => "spot"
  | .outcome _ outcomeName _ _ => outcomeName

end MarketSummary

def normalize (unicode : UnicodeText) (value : String) : String :=
  unicode.toLocaleLowerCase (trim (unicode.nfkc value))

def searchText (unicode : UnicodeText) (market : MarketSummary) : String :=
  let values := [market.displaySymbol, market.canonicalId, market.coin,
    market.family.text, market.venueLabel, market.label]
  let more := match market.details with
    | .perp _ dexName dexFullName _ => [dexName, dexFullName.getD ""]
    | .spot base quote =>
      [base.name, base.fullName.getD "", base.tokenId,
        quote.name, quote.fullName.getD "", quote.tokenId]
    | .outcome outcome outcomeName description sideName =>
      [outcomeName, sideName, description, toString outcome]
  "\n".intercalate ((values ++ more).map (normalize unicode))

/-! ### The order -/

/-- `decimal` -/
def metricValue (value : Option String) : Option ℚ :=
  (value.bind decimalValue).bind fun q => (Double.round q).toRat?

def priceChange (market : MarketSummary) : Option Double :=
  match metricValue (market.midPx.join <|> market.markPx),
    metricValue market.prevDayPx with
  | some current, some previous =>
    if previous = 0 then none
    else some (((Double.round (current - previous)).mapFinite (· / |previous|)).mapFinite (· * 100))
  | _, _ => none

def metric (market : MarketSummary) : SummaryMetric → Option Double
  | .volume => (metricValue market.dayNtlVlm).map Double.finite
  | .priceChange => priceChange market
  | .funding =>
    if market.family = .perp then (metricValue market.funding).map Double.finite else none
  | .openInterest =>
    if market.family = .perp then (metricValue market.openInterest).map Double.finite
    else none

def compareText (left right : String) : Ordering :=
  if left = right then .eq else if utf16 left < utf16 right then .lt else .gt

def compareLabels (unicode : UnicodeText) (left right : MarketSummary) : Ordering :=
  match compareText (normalize unicode left.label) (normalize unicode right.label) with
  | .eq => compareText left.canonicalId right.canonicalId
  | order => order

/-- `compareSummaries`: the sign of what it returns. The difference of two metrics that
are not equal has the sign of their order. -/
def compareSummaries (unicode : UnicodeText) (sort : MarketSummarySort)
    (left right : MarketSummary) : Ordering :=
  match sort with
  | .symbol => compareLabels unicode left right
  | .metric by_ =>
    match metric left by_, metric right by_ with
    | none, some _ => .gt
    | some _, none => .lt
    | some leftMetric, some rightMetric =>
      if leftMetric = rightMetric then compareLabels unicode left right
      else if rightMetric < leftMetric then .lt
      else .gt
    | none, none => compareLabels unicode left right

/-! ### A page -/

def words (text : String) : List String :=
  ((text.toList.splitOnP isTrimmed).filter (· ≠ [])).map String.ofList

def includes (text part : String) : Bool :=
  text.toList.tails.any part.toList.isPrefixOf

def selects (unicode : UnicodeText) (query : MarketSummaryQuery) (market : MarketSummary) : Bool :=
  query.family.all (market.family == ·) &&
    (query.includeHip3 ||
      match market.details with
      | .perp dexIndex _ _ _ => dexIndex == 0
      | _ => true) &&
    query.availability.all (market.orderAvailability == ·) &&
    query.lifecycle.all (market.lifecycle == ·) &&
    (query.ids.isEmpty || query.ids.contains market.canonicalId) &&
    (words (normalize unicode query.query)).all (includes (searchText unicode market))

def selectedSummaries (unicode : UnicodeText) (markets : List Market)
    (query : MarketSummaryQuery) : List MarketSummary :=
  ((markets.map marketSummaryFromMarket).filter (selects unicode query)).mergeSort
    fun left right => (compareSummaries unicode query.sort left right).isLE

def maxMarketSummaryPageSize : ℤ := 50

def marketSummaryCursor (generation : ℤ) (offset : ℕ) : String :=
  "g" ++ toString generation ++ "o" ++ toString offset

/-- The numbers of `/^g([1-9][0-9]*)o(0|[1-9][0-9]*)$/`. -/
def readCursor (cursor : String) : Option (ℕ × ℕ) :=
  match cursor.toList with
  | 'g' :: rest =>
    let generation := rest.takeWhile Char.isDigit
    match rest.drop generation.length with
    | 'o' :: offset =>
      if isWholePart generation ∧ generation ≠ ['0'] ∧ isWholePart offset then
        some (digitsValue generation, digitsValue offset)
      else none
    | _ => none
  | _ => none

def parseMarketSummaryCursor (cursor : Option String) (generation : Option ℤ) :
    Except SummaryFailure ℕ :=
  match cursor with
  | none => .ok 0
  | some cursor =>
    match readCursor cursor with
    | none => .error (.validation ⟨"marketSummary.cursor", "expected a generation-bound cursor"⟩)
    | some (cursorGeneration, offset) =>
      if isSafeInteger cursorGeneration ∧ isSafeInteger offset then
        if generation.all ((cursorGeneration : ℤ) == ·) then .ok offset
        else .error .generationChanged
      else .error (.validation ⟨"marketSummary.cursor", "expected a safe generation-bound cursor"⟩)

def createMarketSummaryPage (unicode : UnicodeText) (published : MarketCatalogSnapshot)
    (query : MarketSummaryQuery) : Except SummaryFailure MarketSummaryPage :=
  if isSafeInteger query.limit ∧ 1 ≤ query.limit ∧ query.limit ≤ maxMarketSummaryPageSize
  then do
    let offset ← parseMarketSummaryCursor query.cursor (some published.generation)
    let summaries := selectedSummaries unicode published.catalog.markets query
    let items := (summaries.drop offset).take query.limit.toNat
    let nextOffset := offset + items.length
    pure
      { network := published.network
        generation := published.generation
        publishedAtMs := published.publishedAtMs
        items := items
        total := summaries.length
        nextCursor := if nextOffset < summaries.length then
            some (marketSummaryCursor published.generation nextOffset)
          else none
        quarantinedCount := published.catalog.quarantined.length
        sourceErrorCount := published.catalog.sourceErrors.length }
  else .error (.validation ⟨"marketSummary.limit", "expected an integer between 1 and 50"⟩)

/-! ### What a page is written as -/

def MarketSummaryToken.fields (token : MarketSummaryToken) : List (String × Option Json) :=
  definite
    [("tokenId", .string token.tokenId), ("name", .string token.name),
      ("fullName", ofNullable .string token.fullName)]

def MarketSummaryToken.toJson (token : MarketSummaryToken) : Json := ofFields token.fields

def BaseMarketSummary.fields (market : BaseMarketSummary) (family : MarketFamily) :
    List (String × Option Json) :=
  definite
    [("family", .string family.text), ("canonicalId", .string market.canonicalId),
      ("displaySymbol", .string market.displaySymbol), ("coin", .string market.coin),
      ("lifecycle", .string market.lifecycle.text),
      ("orderAvailability", .string market.orderAvailability.text),
      ("pricePrecision", ofNullable PricePrecisionInputs.toJson market.pricePrecision)] ++
    [("dayNtlVlm", market.dayNtlVlm.map .string), ("funding", market.funding.map .string),
      ("markPx", market.markPx.map .string), ("midPx", market.midPx.map (ofNullable .string)),
      ("openInterest", market.openInterest.map .string),
      ("prevDayPx", market.prevDayPx.map .string)]

def FamilySummary.fields (details : FamilySummary) : List (String × Option Json) :=
  definite <| match details with
    | .perp dexIndex dexName dexFullName maxLeverage =>
      [("dexIndex", .number dexIndex), ("dexName", .string dexName),
        ("dexFullName", ofNullable .string dexFullName), ("maxLeverage", .number maxLeverage)]
    | .spot baseToken quoteToken =>
      [("baseToken", baseToken.toJson), ("quoteToken", quoteToken.toJson)]
    | .outcome id outcomeName description sideName =>
      [("outcome", .number id), ("outcomeName", .string outcomeName),
        ("description", .string description), ("sideName", .string sideName)]

def MarketSummary.fields (market : MarketSummary) : List (String × Option Json) :=
  market.toBaseMarketSummary.fields market.family ++ market.details.fields

def MarketSummary.toJson (market : MarketSummary) : Json := ofFields market.fields

def MarketSummaryPage.fields (page : MarketSummaryPage) : List (String × Option Json) :=
  definite
    [("schemaVersion", .number 1), ("network", .string page.network.text),
      ("generation", .number page.generation), ("publishedAtMs", .number page.publishedAtMs),
      ("items", .array (page.items.map MarketSummary.toJson)), ("total", .number page.total),
      ("nextCursor", ofNullable .string page.nextCursor),
      ("quarantinedCount", .number page.quarantinedCount),
      ("sourceErrorCount", .number page.sourceErrorCount)]

def MarketSummaryPage.toJson (page : MarketSummaryPage) : Json := ofFields page.fields

def maxMarketSummaryResponseBytes : ℕ := 256 * 1024

inductive SummaryResponse where
  | notReady
  | page (body : String)

def marketSummaryResponse (unicode : UnicodeText)
    (published : Option MarketCatalogSnapshot) (query : MarketSummaryQuery) :
    Except SummaryFailure SummaryResponse :=
  match published with
  | none => .ok .notReady
  | some published =>
    if published.catalog.markets = [] then .ok .notReady
    else do
      let page ← createMarketSummaryPage unicode published query
      let body := page.toJson.stringify
      if maxMarketSummaryResponseBytes < body.utf8ByteSize then
        .error (.contract "response body exceeds 64 KiB")
      else pure (.page body)

/-! ### Reading a page -/

namespace Summary

def object (value : Option Json) (path : String) : Parsed Json :=
  match value with
  | some (.object fields) => .ok (.object fields)
  | _ => .error ⟨path, "expected an object"⟩

def exactKeys (value : Json) (allowed : List String) (path : String) : Parsed Unit :=
  match value.keys.find? fun key => !allowed.contains key with
  | some key => .error ⟨path ++ "." ++ key, "unknown field"⟩
  | none => .ok ()

def text (value : Option Json) (path : String) (allowEmpty : Bool) : Parsed String :=
  match value with
  | some (.string text) =>
    if allowEmpty = true ∨ text ≠ "" then .ok text
    else .error ⟨path, "expected a string"⟩
  | _ => .error ⟨path, "expected a string"⟩

def nullableText (value : Option Json) (path : String) : Parsed (Option String) :=
  Snapshot.nullable (fun value => text value path false) value

def safeInteger (value : Option Json) (path : String) (minimum : ℤ) : Parsed ℤ :=
  match value with
  | some (.number n) =>
    if isSafeInteger n ∧ minimum ≤ n then .ok n
    else .error ⟨path, "expected a safe integer"⟩
  | _ => .error ⟨path, "expected a safe integer"⟩

def contextKeys : List String :=
  ["dayNtlVlm", "funding", "markPx", "midPx", "openInterest", "prevDayPx"]

def baseKeys : List String :=
  ["family", "canonicalId", "displaySymbol", "coin", "lifecycle", "orderAvailability",
    "pricePrecision"] ++ contextKeys

def parseToken (value : Option Json) (path : String) : Parsed MarketSummaryToken := do
  let source ← object value path
  exactKeys source ["tokenId", "name", "fullName"] path
  let tokenId ← text (source.field "tokenId") (path ++ ".tokenId") false
  let name ← text (source.field "name") (path ++ ".name") false
  let fullName ← nullableText (source.field "fullName") (path ++ ".fullName")
  pure { tokenId := tokenId, name := name, fullName := fullName }

def parsePrecision (value : Option Json) (path : String) :
    Parsed PricePrecisionInputs := do
  let source ← object value path
  exactKeys source ["maxSignificantFigures", "maxDecimalPlaces"] path
  if source.integer "maxSignificantFigures" = some 5 then do
    let maxDecimalPlaces ← safeInteger (source.field "maxDecimalPlaces")
      (path ++ ".maxDecimalPlaces") 0
    if 8 < maxDecimalPlaces then
      .error ⟨path ++ ".maxDecimalPlaces", "expected at most 8"⟩
    else pure { maxSignificantFigures := 5, maxDecimalPlaces := maxDecimalPlaces }
  else .error ⟨path ++ ".maxSignificantFigures", "expected 5"⟩

def parsePricePrecision (value : Option Json) (path : String) :
    Parsed (Option PricePrecisionInputs) :=
  Snapshot.nullable (fun value => parsePrecision value path) value

def parseBase (source : Json) (path : String) : Parsed BaseMarketSummary := do
  let canonicalId ← text (source.field "canonicalId") (path ++ ".canonicalId") false
  let displaySymbol ← text (source.field "displaySymbol") (path ++ ".displaySymbol") false
  let coin ← text (source.field "coin") (path ++ ".coin") false
  let lifecycle ← Snapshot.oneOf [("active", .active), ("delisted", .delisted)]
    (source.field "lifecycle") (path ++ ".lifecycle") "expected a market lifecycle"
  let orderAvailability ← Snapshot.oneOf
    [("enabled", .enabled), ("browse_only", .browseOnly)]
    (source.field "orderAvailability") (path ++ ".orderAvailability")
    "expected market availability"
  let pricePrecision ← parsePricePrecision (source.field "pricePrecision")
    (path ++ ".pricePrecision")
  let dayNtlVlm ← Catalog.optional parseDecimalString source "dayNtlVlm" path
  let funding ← Catalog.optional parseDecimalString source "funding" path
  let markPx ← Catalog.optional parseDecimalString source "markPx" path
  let midPx ← Catalog.optional parseNullableDecimalString source "midPx" path
  let openInterest ← Catalog.optional parseDecimalString source "openInterest" path
  let prevDayPx ← Catalog.optional parseDecimalString source "prevDayPx" path
  pure
    { canonicalId := canonicalId
      displaySymbol := displaySymbol
      coin := coin
      lifecycle := lifecycle
      orderAvailability := orderAvailability
      pricePrecision := pricePrecision
      dayNtlVlm := dayNtlVlm
      funding := funding
      markPx := markPx
      midPx := midPx
      openInterest := openInterest
      prevDayPx := prevDayPx }

def familyKeys : MarketFamily → List String
  | .perp => ["dexIndex", "dexName", "dexFullName", "maxLeverage"]
  | .spot => ["baseToken", "quoteToken"]
  | .outcome => ["outcome", "outcomeName", "description", "sideName"]

def parseDetails (source : Json) (path : String) :
    MarketFamily → Parsed FamilySummary
  | .perp => do
      let dexIndex ← safeInteger (source.field "dexIndex") (path ++ ".dexIndex") 0
      let dexName ← text (source.field "dexName") (path ++ ".dexName") true
      let dexFullName ← nullableText (source.field "dexFullName")
        (path ++ ".dexFullName")
      let maxLeverage ← safeInteger (source.field "maxLeverage")
        (path ++ ".maxLeverage") 1
      pure (.perp dexIndex dexName dexFullName maxLeverage)
  | .spot => do
      let baseToken ← parseToken (source.field "baseToken") (path ++ ".baseToken")
      let quoteToken ← parseToken (source.field "quoteToken") (path ++ ".quoteToken")
      pure (.spot baseToken quoteToken)
  | .outcome => do
      let outcome ← safeInteger (source.field "outcome") (path ++ ".outcome") 0
      let outcomeName ← text (source.field "outcomeName") (path ++ ".outcomeName") false
      let description ← text (source.field "description") (path ++ ".description") true
      let sideName ← text (source.field "sideName") (path ++ ".sideName") false
      pure (.outcome outcome outcomeName description sideName)

def parseSummary (value : Json) (index : ℕ) : Parsed MarketSummary := do
  let path := Catalog.indexed "marketSummaryPage.items" index
  let source ← object (some value) path
  let base ← parseBase source path
  let family ← Snapshot.oneOf Snapshot.families (source.field "family")
    (path ++ ".family") "expected a market family"
  exactKeys source (baseKeys ++ familyKeys family) path
  let details ← parseDetails source path family
  pure { toBaseMarketSummary := base, details := details }

def pageItems (value : Option Json) : Parsed (List Json) :=
  match value with
  | some (.array items) =>
    if (items.length : ℤ) ≤ maxMarketSummaryPageSize then .ok items
    else .error ⟨"marketSummaryPage.items", "expected at most 50 items"⟩
  | _ => .error ⟨"marketSummaryPage.items", "expected at most 50 items"⟩

def lift {α : Type} (parsed : Parsed α) : Except SummaryFailure α :=
  parsed.mapError .validation

end Summary

open Summary in
def parseMarketSummaryPage (value : Json) : Except SummaryFailure MarketSummaryPage := do
  let path := "marketSummaryPage"
  let source ← lift (object (some value) path)
  lift (Summary.exactKeys source ["schemaVersion", "network", "generation", "publishedAtMs",
    "items", "total", "nextCursor", "quarantinedCount", "sourceErrorCount"] path)
  if source.integer "schemaVersion" = some 1 then do
    let network ← lift (Snapshot.oneOf [("testnet", .testnet), ("mainnet", .mainnet)]
      (source.field "network") (path ++ ".network") "expected a Hyperliquid network")
    let rawItems ← lift (pageItems (source.field "items"))
    let generation ← lift (Summary.safeInteger (source.field "generation")
      (path ++ ".generation") 1)
    let total ← lift (Summary.safeInteger (source.field "total") (path ++ ".total") 0)
    let items ← lift (rawItems.zipIdx.mapM fun entry => parseSummary entry.1 entry.2)
    let nextCursor ← lift (nullableText (source.field "nextCursor") (path ++ ".nextCursor"))
    let _ ← parseMarketSummaryCursor nextCursor (some generation)
    if total < items.length then
      .error (.validation ⟨path ++ ".total", "expected total to cover returned items"⟩)
    else do
      let publishedAtMs ← lift (Summary.safeInteger (source.field "publishedAtMs")
        (path ++ ".publishedAtMs") 0)
      let quarantinedCount ← lift (Summary.safeInteger (source.field "quarantinedCount")
        (path ++ ".quarantinedCount") 0)
      let sourceErrorCount ← lift (Summary.safeInteger (source.field "sourceErrorCount")
        (path ++ ".sourceErrorCount") 0)
      pure
        { network := network
          generation := generation
          publishedAtMs := publishedAtMs
          items := items
          total := total
          nextCursor := nextCursor
          quarantinedCount := quarantinedCount
          sourceErrorCount := sourceErrorCount }
  else .error (.validation ⟨path ++ ".schemaVersion", "expected schema version 1"⟩)

end HyperTrader
