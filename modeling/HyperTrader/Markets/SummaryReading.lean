import HyperTrader.Markets.Reading
import HyperTrader.Markets.Summary

/-!
# A page of summaries read back

The summaries of an accepted market and the page they are on pass every check of the
client, and are read as they were written.
-/

namespace HyperTrader

open Library Library.Json

namespace Summary

variable {fields : List (String × Option Json)} {path key : String} {value : Option String}
  {market : Market}

theorem object_ofFields :
    object (some (ofFields fields)) path = .ok (ofFields fields) := rfl

theorem exactKeys_ofFields {allowed : List String} (h : fields.map Prod.fst ⊆ allowed) :
    exactKeys (ofFields fields) allowed path = .ok () := by
  have hnone : (ofFields fields).keys.find? (fun key => !allowed.contains key) = none := by
    rw [List.find?_eq_none]
    intro key hkey
    simp [h (mem_keys_ofFields hkey)]
  unfold exactKeys
  rw [hnone]

theorem text_string {text' : String} {allowEmpty : Bool} (h : allowEmpty = true ∨ text' ≠ "") :
    text (some (.string text')) path allowEmpty = .ok text' :=
  if_pos h

theorem nullableText_ofNullable (h : ∀ t ∈ value, t ≠ "") :
    nullableText (some (ofNullable .string value)) path = .ok value := by
  cases value with
  | none => rfl
  | some t =>
    have hread : text (some (.string t)) path false = .ok t := text_string (.inr (h t rfl))
    change (text (some (.string t)) path false).map some = .ok (some t)
    rw [hread]
    rfl

theorem safeInteger_number {n minimum : ℤ} (hsafe : isSafeInteger n)
    (hle : minimum ≤ n) : Summary.safeInteger (some (.number n)) path minimum = .ok n :=
  if_pos ⟨hsafe, hle⟩

theorem parseToken_toJson {token : TokenIdentity} (h : token.Accepted) (path : String) :
    parseToken (some token.summary.toJson) path = .ok token.summary := by
  have hkeys : token.summary.fields.map Prod.fst ⊆ ["tokenId", "name", "fullName"] := by
    simp [MarketSummaryToken.fields, definite]
  simp only [parseToken, MarketSummaryToken.toJson, except_bind_eq_ok]
  exact ⟨_, object_ofFields, _, exactKeys_ofFields hkeys, _,
    text_string (.inr (Snapshot.fits_false.mp h.tokenId).1), _,
    text_string (.inr (Snapshot.fits_false.mp h.name).1), _,
    nullableText_ofNullable fun t hmem => (Snapshot.fits_false.mp (h.fullName t hmem)).1, rfl⟩

theorem parsePricePrecision_toJson {precision : PricePrecisionInputs}
    (hfigures : precision.maxSignificantFigures = 5)
    (hplaces : 0 ≤ precision.maxDecimalPlaces ∧ precision.maxDecimalPlaces ≤ 8) (path : String) :
    parsePricePrecision (some precision.toJson) path = .ok (some precision) := by
  have hnodup := precision.nodup_fields
  have hkeys : precision.fields.map Prod.fst ⊆
      ["maxSignificantFigures", "maxDecimalPlaces"] := by
    simp [PricePrecisionInputs.fields, definite]
  have hsafe : isSafeInteger precision.maxDecimalPlaces := by
    unfold isSafeInteger
    omega
  have hfigure : precision.toJson.integer "maxSignificantFigures" = some 5 := by
    rw [integer_eq_some, PricePrecisionInputs.toJson, field_ofFields hnodup]
    simp [PricePrecisionInputs.fields, definite, written_cons, hfigures]
  have hplace : precision.toJson.field "maxDecimalPlaces" =
      some (.number precision.maxDecimalPlaces) := by
    rw [PricePrecisionInputs.toJson, field_ofFields hnodup]
    simp [PricePrecisionInputs.fields, definite, written_cons]
  have hread : parsePrecision (some precision.toJson) path = .ok precision := by
    have hobject : object (some precision.toJson) path = .ok precision.toJson := rfl
    have hexact : exactKeys precision.toJson ["maxSignificantFigures", "maxDecimalPlaces"]
        path = .ok () := exactKeys_ofFields hkeys
    simp only [parsePrecision, hobject, hexact, bind, Except.bind, hfigure, if_true, hplace,
      safeInteger_number hsafe hplaces.1, if_neg (Int.not_lt.mpr hplaces.2)]
    obtain ⟨figures, places⟩ := precision
    obtain rfl : figures = 5 := hfigures
    rfl
  change (parsePrecision (some precision.toJson) path).map some = .ok (some precision)
  rw [hread]
  rfl

theorem nodup_fields (market : MarketSummary) : (market.fields.map Prod.fst).Nodup := by
  obtain ⟨base, details⟩ := market
  cases details <;>
    simp [MarketSummary.fields, MarketSummary.family, BaseMarketSummary.fields,
      FamilySummary.fields, definite]

theorem keys_fields (market : MarketSummary) :
    market.fields.map Prod.fst ⊆ baseKeys ++ familyKeys market.family := by
  obtain ⟨base, details⟩ := market
  cases details <;>
    simp [MarketSummary.fields, MarketSummary.family, BaseMarketSummary.fields,
      FamilySummary.fields, definite, baseKeys, contextKeys, familyKeys]

theorem field_base (market : MarketSummary) (h : key ∈ baseKeys) :
    market.toJson.field key = written (market.toBaseMarketSummary.fields market.family) key := by
  rw [MarketSummary.toJson, field_ofFields (nodup_fields market), MarketSummary.fields]
  apply written_append
  simpa [BaseMarketSummary.fields, definite, baseKeys, contextKeys] using h

theorem field_details (market : MarketSummary) (h : key ∉ baseKeys) :
    market.toJson.field key = written market.details.fields key := by
  rw [MarketSummary.toJson, field_ofFields (nodup_fields market), MarketSummary.fields]
  apply written_append_of_notMem
  simpa [BaseMarketSummary.fields, definite, baseKeys, contextKeys] using h

theorem pricePrecision_accepted (h : market.Accepted) (path : String) :
    parsePricePrecision (some (ofNullable PricePrecisionInputs.toJson market.pricePrecision))
      path = .ok market.pricePrecision := by
  cases market with
  | perp market =>
    have hsize := h.sizeDecimals
    have hprecision := h.pricePrecision
    refine parsePricePrecision_toJson ?_ ?_ path
    · rw [hprecision]
    · rw [hprecision]
      constructor
      · change 0 ≤ 6 - market.sizeDecimals
        omega
      · change 6 - market.sizeDecimals ≤ 8
        omega
  | spot market =>
    have hsize := h.sizeDecimals
    have hprecision := h.pricePrecision
    refine parsePricePrecision_toJson ?_ ?_ path
    · rw [hprecision]
    · rw [hprecision]
      constructor
      · change 0 ≤ 8 - market.sizeDecimals
        omega
      · change 8 - market.sizeDecimals ≤ 8
        omega
  | outcome market => rfl

theorem base_accepted (h : market.Accepted) : market.base.Accepted := by
  cases market with
  | perp market => exact h.base
  | spot market => exact h.base
  | outcome market => exact h.base

theorem optional_decimal {source : Json} (hfield : source.field key = value.map .string)
    (hdecimal : ∀ t ∈ value, isDecimalString t = true) :
    Catalog.optional parseDecimalString source key path = .ok value :=
  (optional_written parseDecimalString .string value hfield
    fun _ _ _ => parseDecimalString_string).mpr ⟨rfl, hdecimal⟩

theorem parseBase_toJson (h : market.Accepted) (path : String) :
    parseBase (marketSummaryFromMarket market).toJson path =
      .ok (marketSummaryFromMarket market).toBaseMarketSummary := by
  have hbase := base_accepted h
  have hcontext := hbase.context
  have hfield : ∀ key ∈ baseKeys, (marketSummaryFromMarket market).toJson.field key =
      written ((marketSummaryFromMarket market).toBaseMarketSummary.fields
        (marketSummaryFromMarket market).family) key :=
    fun key hkey => field_base _ hkey
  simp only [baseKeys, contextKeys, List.cons_append, List.nil_append, List.forall_mem_cons,
    BaseMarketSummary.fields, definite, List.map_cons, List.map_nil, written_cons,
    String.reduceEq, if_true, if_false] at hfield
  obtain ⟨-, hid, hsymbol, hcoin, hlifecycle, havailability, hprecision, hvolume, hfunding,
    hmark, hmid, hinterest, hprevious, -⟩ := hfield
  have hstate : Snapshot.oneOf [("active", MarketLifecycle.active), ("delisted", .delisted)]
      (some (.string (marketSummaryFromMarket market).lifecycle.text))
      (path ++ ".lifecycle") "expected a market lifecycle" =
        .ok (marketSummaryFromMarket market).lifecycle := by
    cases (marketSummaryFromMarket market).lifecycle <;>
      simp [Snapshot.oneOf, MarketLifecycle.text]
  have hmidPx : Catalog.optional parseNullableDecimalString
      (marketSummaryFromMarket market).toJson "midPx" path =
        .ok (marketSummaryFromMarket market).midPx :=
    (optional_written parseNullableDecimalString (ofNullable .string) _ hmid
      fun _ _ _ => parseNullableDecimalString_ofNullable).mpr ⟨rfl, hcontext.midPx⟩
  simp only [parseBase, except_bind_eq_ok, hid, hsymbol, hcoin, hlifecycle, havailability,
    hprecision]
  exact ⟨_, text_string (.inr (Snapshot.fits_false.mp hbase.canonicalId).1), _,
    text_string (.inr (Snapshot.fits_false.mp hbase.displaySymbol).1), _,
    text_string (.inr (Snapshot.fits_false.mp hbase.coin).1), _, hstate, _,
    Snapshot.availability_text.mpr rfl, _, pricePrecision_accepted h _, _,
    optional_decimal hvolume hcontext.dayNtlVlm, _,
    optional_decimal hfunding hcontext.funding, _, optional_decimal hmark hcontext.markPx, _,
    hmidPx, _, optional_decimal hinterest hcontext.openInterest, _,
    optional_decimal hprevious hcontext.prevDayPx, rfl⟩

theorem parseDetails_toJson (h : market.Accepted) (path : String) :
    parseDetails (marketSummaryFromMarket market).toJson path
        (marketSummaryFromMarket market).family = .ok (marketSummaryFromMarket market).details := by
  have hfield : ∀ key ∉ baseKeys, (marketSummaryFromMarket market).toJson.field key =
      written (marketSummaryFromMarket market).details.fields key :=
    fun key hkey => field_details _ hkey
  cases market with
  | perp market =>
    have hdexIndex := hfield "dexIndex" (by decide)
    have hdexName := hfield "dexName" (by decide)
    have hfullName := hfield "dexFullName" (by decide)
    have hleverage := hfield "maxLeverage" (by decide)
    simp only [marketSummaryFromMarket, PerpMarket.summary, FamilySummary.fields, definite,
      List.map_cons, List.map_nil, written_cons, String.reduceEq, if_true, if_false]
      at hdexIndex hdexName hfullName hleverage
    simp only [parseDetails, MarketSummary.family, marketSummaryFromMarket,
      PerpMarket.summary, except_bind_eq_ok, hdexIndex, hdexName, hfullName, hleverage]
    exact ⟨_, safeInteger_number h.dexIndex.1 h.dexIndex.2, _, text_string (.inl rfl), _,
      nullableText_ofNullable fun t hmem => (Snapshot.fits_false.mp (h.dexFullName t hmem)).1, _,
      safeInteger_number h.maxLeverage.1 h.maxLeverage.2, rfl⟩
  | spot market =>
    have hbase := hfield "baseToken" (by decide)
    have hquote := hfield "quoteToken" (by decide)
    simp only [marketSummaryFromMarket, SpotMarket.summary, FamilySummary.fields, definite,
      List.map_cons, List.map_nil, written_cons, String.reduceEq, if_true, if_false]
      at hbase hquote
    simp only [parseDetails, MarketSummary.family, marketSummaryFromMarket,
      SpotMarket.summary, except_bind_eq_ok, hbase, hquote]
    exact ⟨_, parseToken_toJson h.baseToken _, _, parseToken_toJson h.quoteToken _, rfl⟩
  | outcome market =>
    have hid := hfield "outcome" (by decide)
    have hname := hfield "outcomeName" (by decide)
    have hdescription := hfield "description" (by decide)
    have hside := hfield "sideName" (by decide)
    simp only [marketSummaryFromMarket, OutcomeMarket.summary, FamilySummary.fields,
      definite, List.map_cons, List.map_nil, written_cons, String.reduceEq, if_true,
      if_false] at hid hname hdescription hside
    simp only [parseDetails, MarketSummary.family, marketSummaryFromMarket,
      OutcomeMarket.summary, except_bind_eq_ok, hid, hname, hdescription, hside]
    exact ⟨_, safeInteger_number h.outcome.1 h.outcome.2, _,
      text_string (.inr (Snapshot.fits_false.mp h.outcomeName).1), _, text_string (.inl rfl), _,
      text_string (.inr (Snapshot.fits_false.mp h.sideName).1), rfl⟩

theorem parseSummary_toJson (h : market.Accepted) (index : ℕ) :
    parseSummary (marketSummaryFromMarket market).toJson index =
      .ok (marketSummaryFromMarket market) := by
  have hfamily : (marketSummaryFromMarket market).toJson.field "family" =
      some (.string (marketSummaryFromMarket market).family.text) := by
    rw [field_base _ (by decide)]
    simp [BaseMarketSummary.fields, definite, written_cons]
  have hread : ∀ path message, Snapshot.oneOf Snapshot.families
      ((marketSummaryFromMarket market).toJson.field "family") path message =
        .ok (marketSummaryFromMarket market).family := by
    intro path message
    rw [hfamily]
    exact Snapshot.family_text.mpr rfl
  simp only [parseSummary, except_bind_eq_ok]
  exact ⟨_, object_ofFields, _, parseBase_toJson h _, _, hread _ _, _,
    exactKeys_ofFields (keys_fields _), _, parseDetails_toJson h _, rfl⟩

end Summary

open Summary

theorem MarketSummaryPage.nodup_fields (page : MarketSummaryPage) :
    (page.fields.map Prod.fst).Nodup := by
  simp [fields, definite]

structure MarketSummaryPage.Readable (page : MarketSummaryPage) : Prop where
  generation : isSafeInteger page.generation ∧ 1 ≤ page.generation
  publishedAtMs : isSafeInteger page.publishedAtMs ∧ 0 ≤ page.publishedAtMs
  items : ∀ item ∈ page.items, ∃ market : Market, market.Accepted ∧
    item = marketSummaryFromMarket market
  count : (page.items.length : ℤ) ≤ maxMarketSummaryPageSize
  total : isSafeInteger page.total ∧ (page.items.length : ℤ) ≤ page.total
  nextCursor : ∀ next ∈ page.nextCursor, next ≠ "" ∧
    ∃ offset, parseMarketSummaryCursor (some next) (some page.generation) = .ok offset
  quarantinedCount : isSafeInteger page.quarantinedCount ∧ 0 ≤ page.quarantinedCount
  sourceErrorCount : isSafeInteger page.sourceErrorCount ∧ 0 ≤ page.sourceErrorCount

theorem mapM_parseSummary {items : List MarketSummary} (start : ℕ)
    (h : ∀ item ∈ items, ∃ market : Market, market.Accepted ∧
      item = marketSummaryFromMarket market) :
    (((items.map MarketSummary.toJson).zipIdx start).mapM fun entry =>
      parseSummary entry.1 entry.2) = .ok items := by
  induction items generalizing start with
  | nil => rfl
  | cons item items ih =>
    obtain ⟨market, haccepted, rfl⟩ := h item List.mem_cons_self
    rw [List.map_cons, List.zipIdx_cons, List.mapM_cons, parseSummary_toJson haccepted,
      ih (start + 1) fun other hmem => h other (List.mem_cons_of_mem _ hmem)]
    rfl

theorem parseMarketSummaryPage_toJson {page : MarketSummaryPage} (h : page.Readable) :
    parseMarketSummaryPage page.toJson = .ok page := by
  have hfield : ∀ key, page.toJson.field key = written page.fields key :=
    field_ofFields page.nodup_fields
  have hkeys : Summary.exactKeys page.toJson ["schemaVersion", "network", "generation",
      "publishedAtMs", "items", "total", "nextCursor", "quarantinedCount",
      "sourceErrorCount"] "marketSummaryPage" = .ok () := by
    apply exactKeys_ofFields
    simp [MarketSummaryPage.fields, definite]
  have hversion : page.toJson.integer "schemaVersion" = some 1 := by
    rw [integer_eq_some, hfield]
    simp [MarketSummaryPage.fields, definite, written_cons]
  have hnetwork : Snapshot.oneOf [("testnet", HyperliquidNetwork.testnet),
      ("mainnet", .mainnet)] (some (.string page.network.text))
      ("marketSummaryPage" ++ ".network") "expected a Hyperliquid network" =
        .ok page.network := by
    cases page.network <;> simp [Snapshot.oneOf, HyperliquidNetwork.text]
  have hitems : pageItems (some (.array (page.items.map MarketSummary.toJson))) =
      .ok (page.items.map MarketSummary.toJson) := by
    apply if_pos
    rw [List.length_map]
    exact h.count
  have hcursor : ∃ offset, parseMarketSummaryCursor page.nextCursor (some page.generation) =
      .ok offset := by
    cases hnext : page.nextCursor with
    | none => exact ⟨0, rfl⟩
    | some next => exact (h.nextCursor next hnext).2
  obtain ⟨offset, hoffset⟩ := hcursor
  have hzero : (0 : ℤ) ≤ page.total :=
    (Int.natCast_nonneg page.items.length).trans h.total.2
  have hlift : ∀ {α : Type} {x : Parsed α} {a : α}, x = .ok a → lift x = .ok a := by
    rintro α x a rfl
    rfl
  simp only [parseMarketSummaryPage, except_bind_eq_ok]
  refine ⟨page.toJson, rfl, (), hlift hkeys, ?_⟩
  rw [if_pos hversion]
  simp only [except_bind_eq_ok, hfield]
  simp only [MarketSummaryPage.fields, definite, List.map_cons, List.map_nil, written_cons,
    String.reduceEq, if_true, if_false]
  refine ⟨_, hlift hnetwork, _, hlift hitems, _,
    hlift (safeInteger_number h.generation.1 h.generation.2), _,
    hlift (safeInteger_number h.total.1 hzero), _, hlift (mapM_parseSummary 0 h.items), _,
    hlift (nullableText_ofNullable fun next hmem => (h.nextCursor next hmem).1), _, hoffset, ?_⟩
  rw [if_neg (Int.not_lt.mpr h.total.2)]
  simp only [except_bind_eq_ok]
  exact ⟨_, hlift (safeInteger_number h.publishedAtMs.1 h.publishedAtMs.2), _,
    hlift (safeInteger_number h.quarantinedCount.1 h.quarantinedCount.2), _,
    hlift (safeInteger_number h.sourceErrorCount.1 h.sourceErrorCount.2), rfl⟩

end HyperTrader
