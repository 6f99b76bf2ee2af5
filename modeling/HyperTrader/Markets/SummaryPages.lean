import HyperTrader.Library.JsonSize
import HyperTrader.Markets.Pagination
import HyperTrader.Markets.SummaryReading

/-!
# The pages of a published catalog

Of a catalog that the client accepts, the pages of a query are a partition of what it
selects, and the client accepts each of them. The bound on the text of a response is
apart: the texts that a catalog may hold are too long for it.
-/

namespace HyperTrader

open Library Library.Json

section

variable {unicode : UnicodeText} {published : MarketCatalogSnapshot}
  {query : MarketSummaryQuery}

theorem exists_of_mem_selectedSummaries {item : MarketSummary}
    (h : item ∈ selectedSummaries unicode published.catalog.markets query) :
    ∃ market ∈ published.catalog.markets, item = marketSummaryFromMarket market := by
  rw [(selectedSummaries_perm unicode _ query).mem_iff] at h
  obtain ⟨market, hmarket, rfl⟩ := List.mem_map.mp (List.mem_of_mem_filter h)
  exact ⟨market, hmarket, rfl⟩

theorem marketSummaryCursor_ne_empty (generation : ℤ) (offset : ℕ) :
    marketSummaryCursor generation offset ≠ "" := by
  intro h
  have hlength := congrArg String.length h
  simp [marketSummaryCursor] at hlength

theorem summaryPage_readable (haccepted : published.Accepted)
    (hlimit : query.limit ≤ maxMarketSummaryPageSize) (offset : ℕ) :
    (summaryPage unicode published query offset).Readable := by
  have hcatalog := haccepted.catalog
  have hsmall : ∀ n : ℕ, n ≤ 20000 → isSafeInteger (n : ℤ) ∧ 0 ≤ (n : ℤ) := by
    intro n hn
    unfold isSafeInteger
    omega
  have hle : (selectedSummaries unicode published.catalog.markets query).length ≤ 20000 :=
    length_selectedSummaries_le hcatalog.marketCount
  have hitems : (summaryPage unicode published query offset).items.length ≤
      query.limit.toNat ∧ (summaryPage unicode published query offset).items.length ≤
        (selectedSummaries unicode published.catalog.markets query).length := by
    unfold summaryPage
    dsimp only
    rw [List.length_take, List.length_drop]
    omega
  refine
    { generation := haccepted.generation
      publishedAtMs := ⟨haccepted.publishedAtMs.1, ?_⟩
      items := fun item hmem => ?_
      count := ?_
      total := ⟨(hsmall _ hle).1, Int.ofNat_le.mpr hitems.2⟩
      nextCursor := fun next hmem => ?_
      quarantinedCount := hsmall _ hcatalog.quarantinedCount
      sourceErrorCount := hsmall _ (hcatalog.errorCount.trans (by decide)) }
  · have hpositive := haccepted.publishedAtMs.2
    change 0 ≤ published.publishedAtMs
    omega
  · have hselected := List.mem_of_mem_drop (List.mem_of_mem_take hmem)
    obtain ⟨market, hmarket, rfl⟩ := exists_of_mem_selectedSummaries hselected
    exact ⟨market, hcatalog.markets market hmarket, rfl⟩
  · unfold maxMarketSummaryPageSize at hlimit ⊢
    omega
  · have hnext := parse_nextCursor haccepted.generation hcatalog.marketCount hmem
    obtain ⟨-, rfl⟩ := summaryPage_next hmem
    exact ⟨marketSummaryCursor_ne_empty _ _, _, hnext⟩

end

/-- The pages of a query over one generation of an accepted catalog: following the
cursors ends; the items are what the query selects, each as often as it is in the
catalog, in an order that `compareSummaries` does not contradict; every page has the
number of them and is read back as it was written; a cursor of another generation is
refused; and the API answers a page where its text is within the bound. -/
theorem summary_pages (unicode : UnicodeText) (value : Json)
    (published : MarketCatalogSnapshot) (query : MarketSummaryQuery)
    (hpublished : parseMarketCatalogSnapshot value = .ok published)
    (hlimit : 1 ≤ query.limit ∧ query.limit ≤ maxMarketSummaryPageSize) :
    (∃ pages, Follows unicode published query none pages) ∧
    (∀ pages, Follows unicode published query none pages →
      (pages.flatMap MarketSummaryPage.items).Perm
        ((published.catalog.markets.map marketSummaryFromMarket).filter (selects unicode query)) ∧
      (pages.flatMap MarketSummaryPage.items).Pairwise (fun left right =>
        (compareSummaries unicode query.sort left right).isLE = true) ∧ ∀ page ∈ pages,
        page.total = ((published.catalog.markets.map marketSummaryFromMarket).filter
          (selects unicode query)).length ∧ ∀ body : Json, body.stringify = page.toJson.stringify →
          parseMarketSummaryPage body = .ok page) ∧
    (∀ (generation : ℤ) (offset : ℕ), isSafeInteger generation ∧ 1 ≤ generation →
      isSafeInteger offset → generation ≠ published.generation →
        pageAt unicode published query (some (marketSummaryCursor generation offset)) =
          .error .generationChanged) ∧
    ∀ (cursor : Option String) (page : MarketSummaryPage),
      pageAt unicode published query cursor = .ok page →
        published.catalog.markets ≠ [] →
          (marketSummaryResponse unicode (some published)
              { query with cursor := cursor } = .ok (.page page.toJson.stringify) ↔
            page.toJson.stringify.utf8ByteSize ≤ maxMarketSummaryResponseBytes) := by
  have haccepted := parseMarketCatalogSnapshot_accepted hpublished
  have hmarkets := haccepted.catalog.marketCount
  have hsafe : isSafeInteger query.limit ∧ 1 ≤ query.limit ∧
      query.limit ≤ maxMarketSummaryPageSize := by
    refine ⟨?_, hlimit⟩
    unfold maxMarketSummaryPageSize at hlimit
    unfold isSafeInteger
    omega
  have hperm := selectedSummaries_perm unicode published.catalog.markets query
  refine ⟨?_, ?_, ?_, ?_⟩
  · exact exists_follows hsafe haccepted.generation hmarkets _ none 0 rfl
      (Nat.le_add_left _ _)
  · intro pages hpages
    obtain ⟨hitems, hall⟩ := follows_items hsafe haccepted.generation hmarkets hpages 0 rfl
    rw [List.drop_zero] at hitems
    rw [hitems]
    refine ⟨hperm, selectedSummaries_ordered unicode _ query, fun page hmem => ?_⟩
    obtain ⟨place, rfl⟩ := hall page hmem
    constructor
    · change ((selectedSummaries unicode published.catalog.markets query).length : ℤ) = _
      rw [hperm.length_eq]
    · intro body hbody
      obtain rfl := stringify_injective hbody
      exact parseMarketSummaryPage_toJson
        (summaryPage_readable haccepted hlimit.2 place)
  · intro generation offset hgeneration hoffset hne
    rw [pageAt_eq hsafe, parseMarketSummaryCursor_marketSummaryCursor hgeneration hoffset,
      if_neg hne]
    rfl
  · intro cursor page hpage hne
    unfold pageAt at hpage
    simp only [marketSummaryResponse, if_neg hne, hpage, bind, Except.bind]
    split
    · rename_i hlarge
      constructor
      · intro h
        cases h
      · intro hle
        exact absurd hlarge (Nat.not_lt.mpr hle)
    · rename_i hsmall
      exact ⟨fun _ => Nat.not_lt.mp hsmall, fun _ => rfl⟩

def plainText : UnicodeText where
  nfkc := id
  toLocaleLowerCase := asciiLower

def longOutcome : OutcomeMarket where
  canonicalId := "outcome:7:0"
  displaySymbol := "Yes"
  coin := "#70"
  universeIndex := 70
  orderAssetId := 100000070
  lifecycle := .active
  orderAvailability := .browseOnly
  validationReasons := []
  context := ⟨none, none, none, none, none, none, none, none, none, none⟩
  outcome := 7
  outcomeName := "Settlement"
  description := String.ofList (List.replicate 4096 'é')
  side := ⟨0, Nat.zero_lt_two⟩
  sideName := "Yes"
  encoding := 70

def longCatalog : MarketCatalogSnapshot where
  network := .testnet
  generation := 3
  publishedAtMs := 1760000000000
  catalog :=
    { markets := List.replicate 50 (.outcome longOutcome)
      quarantined := []
      sourceErrors := []
      builderPage := none }

def everyMarket : MarketSummaryQuery where
  query := ""
  family := none
  includeHip3 := true
  availability := none
  lifecycle := none
  sort := .symbol
  ids := []
  cursor := none
  limit := 50

theorem longCatalog_accepted : longCatalog.Accepted := by
  have hlength : utf16Length longOutcome.description ≤ 4096 := by
    have hsum : ∀ n : ℕ, ((List.replicate n 'é').map fun c =>
        if c.toNat < 0x10000 then 1 else 2).sum = n := by
      intro n
      rw [List.map_replicate, List.sum_replicate_nat]
      exact Nat.mul_one n
    unfold longOutcome utf16Length
    dsimp only
    rw [String.toList_ofList, hsum]
  have hmarket : longOutcome.Accepted :=
    { base :=
        { canonicalId := by decide
          displaySymbol := by decide
          coin := by decide
          universeIndex := by decide
          orderAssetId := by decide
          validationReasons := by decide
          context := Catalog.emptyContext_decimal }
      outcome := by decide
      outcomeName := by decide
      description := Snapshot.fits_true.mpr hlength
      sideName := by decide
      encoding := by decide }
  exact
    { generation := by decide
      publishedAtMs := by decide
      catalog :=
        { marketCount := by simp [longCatalog]
          markets := by
            intro market hmem
            rw [List.eq_of_mem_replicate hmem]
            exact hmarket
          quarantinedCount := Nat.zero_le _
          quarantined := fun _ hmem => by cases hmem
          errorCount := Nat.zero_le _
          sourceErrors := fun _ hmem => by cases hmem } }

theorem longCatalog_parsed : parseMarketCatalogSnapshot longCatalog.toJson = .ok longCatalog :=
  (parseMarketCatalogSnapshot_toJson _ _).mpr ⟨rfl, longCatalog_accepted⟩

theorem sum_le_utf8ByteSize_page (page : MarketSummaryPage) :
    (page.items.map fun item => byteCount item.toJson.chars).sum ≤
      page.toJson.stringify.utf8ByteSize := by
  have hmem : ("items", some (.array (page.items.map MarketSummary.toJson))) ∈
      page.fields := by
    simp [MarketSummaryPage.fields, definite]
  have hitems : byteCount (chars (.array (page.items.map MarketSummary.toJson))) ≤
      byteCount page.toJson.chars := byteCount_ofFields hmem
  have hsum := sum_le_byteCount_array (page.items.map MarketSummary.toJson)
  rw [List.map_map] at hsum
  rw [utf8ByteSize_stringify]
  exact hsum.trans hitems

theorem longOutcome_large :
    8192 ≤ byteCount (marketSummaryFromMarket (.outcome longOutcome)).toJson.chars := by
  have hmem : ("description", some (.string longOutcome.description)) ∈
      (marketSummaryFromMarket (.outcome longOutcome)).fields := by
    simp [MarketSummary.fields, marketSummaryFromMarket, OutcomeMarket.summary,
      FamilySummary.fields, definite]
  have hdescription : byteCount (chars (.string longOutcome.description)) ≤
      byteCount (marketSummaryFromMarket (.outcome longOutcome)).toJson.chars :=
    byteCount_ofFields hmem
  have htext := byteCount_string longOutcome.description
  have hchars : byteCount longOutcome.description.toList = 8192 := by
    unfold longOutcome
    dsimp only
    rw [String.toList_ofList, byteCount_replicate]
    decide
  omega

theorem selectedSummaries_longCatalog :
    selectedSummaries plainText longCatalog.catalog.markets everyMarket =
      List.replicate 50 (marketSummaryFromMarket (.outcome longOutcome)) := by
  have hselects : selects plainText everyMarket
      (marketSummaryFromMarket (.outcome longOutcome)) = true := by
    have hwords : words (normalize plainText "") = [] := by decide
    simp [selects, everyMarket, hwords]
  have hperm := selectedSummaries_perm plainText longCatalog.catalog.markets everyMarket
  have hmarkets : longCatalog.catalog.markets.map marketSummaryFromMarket =
      List.replicate 50 (marketSummaryFromMarket (.outcome longOutcome)) :=
    List.map_replicate
  have hall : ∀ item ∈ List.replicate 50 (marketSummaryFromMarket (.outcome longOutcome)),
      selects plainText everyMarket item = true := by
    intro item hmem
    rw [List.eq_of_mem_replicate hmem]
    exact hselects
  rw [hmarkets, List.filter_eq_self.mpr hall] at hperm
  exact List.perm_replicate.mp hperm

def thirtyMarkets : MarketSummaryQuery := { everyMarket with limit := 30 }

/-- The fifty markets do not fit on a page of thirty: a cursor is followed. -/
theorem summary_pages_longCatalog :
    ∃ pages, Follows plainText longCatalog thirtyMarkets none pages ∧ 1 < pages.length := by
  have hlimit : isSafeInteger thirtyMarkets.limit ∧ 1 ≤ thirtyMarkets.limit ∧
      thirtyMarkets.limit ≤ maxMarketSummaryPageSize := by decide
  obtain ⟨⟨pages, hpages⟩, hall, -⟩ := summary_pages plainText longCatalog.toJson longCatalog
    thirtyMarkets longCatalog_parsed hlimit.2
  refine ⟨pages, hpages, ?_⟩
  have hcount : (pages.flatMap MarketSummaryPage.items).length = 50 := by
    rw [(hall pages hpages).1.length_eq, ← (selectedSummaries_perm plainText _ _).length_eq]
    change (selectedSummaries plainText longCatalog.catalog.markets everyMarket).length = 50
    rw [selectedSummaries_longCatalog, List.length_replicate]
  cases hpages with
  | last hpage hnext =>
    obtain ⟨offset, hoffset, rfl⟩ := pageAt_eq_ok hlimit hpage
    have hitems : (summaryPage plainText longCatalog thirtyMarkets offset).items.length ≤ 30 :=
      List.length_take_le _ _
    rw [List.flatMap_singleton] at hcount
    omega
  | next hpage hnext hrest => cases hrest <;> simp

/-- The page of the fifty is beyond the bound of the API and of the client. -/
theorem longCatalog_page_too_large :
    ¬ ∀ (unicode : UnicodeText) (value : Json) (published : MarketCatalogSnapshot)
      (query : MarketSummaryQuery), parseMarketCatalogSnapshot value = .ok published →
        1 ≤ query.limit ∧ query.limit ≤ maxMarketSummaryPageSize →
          ∀ pages, Follows unicode published query none pages → ∀ page ∈ pages,
            page.toJson.stringify.utf8ByteSize ≤ maxMarketSummaryResponseBytes := by
  intro hclaim
  have hlimit : isSafeInteger everyMarket.limit ∧ 1 ≤ everyMarket.limit ∧
      everyMarket.limit ≤ maxMarketSummaryPageSize := by decide
  obtain ⟨pages, hpages⟩ : ∃ pages, Follows plainText longCatalog everyMarket none pages :=
    exists_follows hlimit
    longCatalog_accepted.generation longCatalog_accepted.catalog.marketCount _ none 0 rfl
    (Nat.le_add_left _ _)
  have hfirst : summaryPage plainText longCatalog everyMarket 0 ∈ pages := by
    cases hpages with
    | last hpage hnext =>
      obtain ⟨offset, hoffset, rfl⟩ := pageAt_eq_ok hlimit hpage
      cases hoffset
      exact List.mem_singleton_self _
    | next hpage hnext hrest =>
      obtain ⟨offset, hoffset, rfl⟩ := pageAt_eq_ok hlimit hpage
      cases hoffset
      exact List.mem_cons_self
  have hitems : (summaryPage plainText longCatalog everyMarket 0).items =
      List.replicate 50 (marketSummaryFromMarket (.outcome longOutcome)) := by
    change ((selectedSummaries plainText longCatalog.catalog.markets everyMarket).drop
      0).take 50 = _
    rw [selectedSummaries_longCatalog]
    rfl
  have hbound := hclaim plainText longCatalog.toJson longCatalog everyMarket
    longCatalog_parsed hlimit.2 pages hpages _ hfirst
  have hsum := sum_le_utf8ByteSize_page (summaryPage plainText longCatalog everyMarket 0)
  rw [hitems, List.map_replicate, List.sum_replicate_nat] at hsum
  have hlarge := longOutcome_large
  unfold maxMarketSummaryResponseBytes at hbound
  omega

end HyperTrader
