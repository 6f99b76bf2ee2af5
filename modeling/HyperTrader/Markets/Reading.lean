import HyperTrader.Markets.Discovered

/-!
# What a snapshot that was read holds

Whatever value the parser of a snapshot accepts, what it returns is within every check:
one lemma for each parser.
-/

namespace HyperTrader

open Library

namespace Snapshot

variable {α : Type} {value : Option Json} {path : String} {maximum : ℕ} {base : BaseMarket}

theorem nullable_forall {parse : Option Json → Parsed α} {p : α → Prop}
    {a : Option α} (hparse : ∀ value a, parse value = .ok a → p a)
    (h : nullable parse value = .ok a) : ∀ b ∈ a, p b := by
  unfold nullable at h
  split at h
  · cases h
    exact fun _ hmem => by cases hmem
  · cases hread : parse value with
    | error error =>
      rw [hread] at h
      cases h
    | ok b =>
      rw [hread] at h
      cases h
      intro b' hmem
      cases hmem
      exact hparse _ _ hread

theorem mapM_forall {parse : Json → ℕ → Parsed α} {p : α → Prop}
    {entries : List (Json × ℕ)} {l : List α}
    (hparse : ∀ value index a, parse value index = .ok a → p a)
    (h : (entries.mapM fun entry => parse entry.1 entry.2) = .ok l) : ∀ a ∈ l, p a := by
  intro a hmem
  obtain ⟨entry, -, hread⟩ := exists_of_mem_forall₂ (mapM_eq_ok.mp h) hmem
  exact hparse _ _ _ hread

theorem mapM_length {β : Type} {f : α → Parsed β} {l : List α} {l' : List β}
    (h : l.mapM f = .ok l') : l'.length = l.length :=
  (mapM_eq_ok.mp h).length_eq.symm

theorem boundedArray_length {items : List Json} (h : boundedArray value path maximum = .ok items) :
    items.length ≤ maximum := by
  unfold boundedArray at h
  split at h
  · split at h
    · cases h
      assumption
    · cases h
  · cases h

theorem parseEntries_accepted {parse : Json → ℕ → Parsed α} {p : α → Prop} {l : List α}
    (hparse : ∀ value index a, parse value index = .ok a → p a)
    (h : parseEntries parse value path maximum = .ok l) : l.length ≤ maximum ∧ ∀ a ∈ l, p a := by
  simp only [parseEntries, except_bind_eq_ok] at h
  obtain ⟨items, hitems, hread⟩ := h
  have hlength := mapM_length hread
  rw [List.length_zipIdx] at hlength
  exact ⟨hlength.le.trans (boundedArray_length hitems), mapM_forall hparse hread⟩

theorem stringArray_accepted {l : List String} (h : stringArray value path maximum = .ok l) :
    l.length ≤ maximum ∧ ∀ text ∈ l, fits text 1024 false := by
  simp only [stringArray, except_bind_eq_ok] at h
  obtain ⟨items, hitems, hread⟩ := h
  have hlength := mapM_length hread
  rw [List.length_zipIdx] at hlength
  refine ⟨hlength.le.trans (boundedArray_length hitems), fun text hmem => ?_⟩
  obtain ⟨entry, -, hentry⟩ := exists_of_mem_forall₂ (mapM_eq_ok.mp hread) hmem
  exact (boundedString_eq_ok.mp hentry).2

theorem nullableBoundedString_accepted {allowEmpty : Bool} {text : Option String}
    (h : nullableBoundedString value path maximum allowEmpty = .ok text) :
    ∀ t ∈ text, fits t maximum allowEmpty :=
  nullable_forall (fun _ _ hread => (boundedString_eq_ok.mp hread).2) h

theorem nullableNonNegativeInteger_accepted
    {n : Option ℤ} (h : nullableNonNegativeInteger value path = .ok n) :
    ∀ m ∈ n, isSafeInteger m ∧ 0 ≤ m :=
  nullable_forall (fun _ _ hread => (nonNegativeInteger_eq_ok.mp hread).2) h

theorem impactPrices_decimal (value : Option Json) (path : String)
    (prices : Option (String × String)) (h : impactPrices value path = .ok prices) :
    ∀ pair ∈ prices, isDecimalString pair.1 = true ∧ isDecimalString pair.2 = true := by
  unfold impactPrices at h
  split at h
  · cases h
    exact fun _ hmem => by cases hmem
  · simp only [except_bind_eq_ok, pure, Except.pure, Except.ok.injEq] at h
    obtain ⟨bid, hbid, ask, hask, rfl⟩ := h
    intro pair hmem
    cases hmem
    exact ⟨(parseDecimalString_eq_ok.mp hbid).2, (parseDecimalString_eq_ok.mp hask).2⟩
  · cases h

open Catalog in
theorem parseContext_decimal {value : Json} {context : MarketContext}
    (h : parseContext value path = .ok context) : context.Decimal := by
  simp only [parseContext, except_bind_eq_ok, pure, Except.pure, Except.ok.injEq] at h
  obtain ⟨_, h1, _, h2, _, h3, _, h4, _, h5, _, h6, _, h7, _, h8, _, h9, _, himpact, rfl⟩ := h
  exact
    { dayNtlVlm := optional_forall parseDecimalString_decimal h1
      dayBaseVlm := optional_forall parseDecimalString_decimal h2
      funding := optional_forall parseDecimalString_decimal h3
      impactPxs := optional_forall Snapshot.impactPrices_decimal himpact
      markPx := optional_forall parseDecimalString_decimal h4
      midPx := optional_forall parseNullableDecimalString_decimal h8
      openInterest := optional_forall parseDecimalString_decimal h5
      oraclePx := optional_forall parseDecimalString_decimal h6
      premium := optional_forall parseNullableDecimalString_decimal h9
      prevDayPx := optional_forall parseDecimalString_decimal h7 }

theorem parseBaseMarket_accepted {value : Json} {market : BaseMarket}
    (h : parseBaseMarket value path = .ok market) : market.Accepted := by
  simp only [parseBaseMarket, except_bind_eq_ok, pure, Except.pure, Except.ok.injEq] at h
  obtain ⟨_, hid, _, hsymbol, _, hcoin, _, hindex, _, hasset, _, -, _, -, _, hreasons, _,
    hcontext, rfl⟩ := h
  exact
    { canonicalId := (boundedString_eq_ok.mp hid).2
      displaySymbol := (boundedString_eq_ok.mp hsymbol).2
      coin := (boundedString_eq_ok.mp hcoin).2
      universeIndex := (nonNegativeInteger_eq_ok.mp hindex).2
      orderAssetId := (nonNegativeInteger_eq_ok.mp hasset).2
      validationReasons := stringArray_accepted hreasons
      context := parseContext_decimal hcontext }

theorem parseTokenEvmContract_accepted
    {contract : TokenEvmContract} (h : parseTokenEvmContract value path = .ok contract) :
    contract.Accepted := by
  simp only [parseTokenEvmContract, except_bind_eq_ok] at h
  obtain ⟨_, -, address, haddress, h⟩ := h
  split at h
  · rename_i hpattern
    simp only [except_bind_eq_ok] at h
    obtain ⟨extra, hextra, h⟩ := h
    split at h
    · rename_i hrange
      cases h
      exact ⟨(boundedString_eq_ok.mp haddress).2, hpattern, (safeInteger_eq_ok.mp hextra).2, hrange⟩
    · cases h
  · cases h

theorem parseToken_accepted {token : TokenIdentity}
    (h : parseToken value path = .ok token) : token.Accepted := by
  simp only [parseToken, except_bind_eq_ok, pure, Except.pure, Except.ok.injEq] at h
  obtain ⟨_, -, _, hindex, _, htokenId, _, hname, _, hfullName, _, hsize, _, hwei, _, -, _,
    hcontract, rfl⟩ := h
  exact
    { index := (nonNegativeInteger_eq_ok.mp hindex).2
      tokenId := (boundedString_eq_ok.mp htokenId).2
      name := (boundedString_eq_ok.mp hname).2
      fullName := nullableBoundedString_accepted hfullName
      sizeDecimals := (nonNegativeInteger_eq_ok.mp hsize).2
      weiDecimals := (nonNegativeInteger_eq_ok.mp hwei).2
      evmContract := nullable_forall (fun _ _ => parseTokenEvmContract_accepted) hcontract }

theorem parsePricePrecision_accepted {places : ℤ} {precision : PricePrecisionInputs}
    (h : parsePricePrecision value path places = .ok precision) : precision = ⟨5, places⟩ := by
  simp only [parsePricePrecision, except_bind_eq_ok] at h
  obtain ⟨_, -, h⟩ := h
  split at h
  · cases h
    rfl
  · cases h

theorem parsePerpMarket_accepted {value : Json} {market : PerpMarket} (hbase : base.Accepted)
    (h : parsePerpMarket value path base = .ok market) : market.Accepted := by
  simp only [parsePerpMarket, except_bind_eq_ok] at h
  obtain ⟨_, hdexIndex, _, hdexName, _, hfullName, size, hsize, h⟩ := h
  split at h
  · cases h
  · rename_i hmost
    simp only [except_bind_eq_ok, pure, Except.pure, Except.ok.injEq] at h
    obtain ⟨_, hprecision, _, hleverage, _, -, _, hmode, _, htable, rfl⟩ := h
    have hnonneg := (nonNegativeInteger_eq_ok.mp hsize).2.2
    exact
      { base := hbase
        dexIndex := (nonNegativeInteger_eq_ok.mp hdexIndex).2
        dexName := (boundedString_eq_ok.mp hdexName).2
        dexFullName := nullableBoundedString_accepted hfullName
        sizeDecimals := ⟨hnonneg, Int.not_lt.mp hmost⟩
        pricePrecision := parsePricePrecision_accepted hprecision
        maxLeverage := (positiveInteger_eq_ok.mp hleverage).2
        marginMode := nullableBoundedString_accepted hmode
        marginTableId := nullableNonNegativeInteger_accepted htable }

theorem parseSpotMarket_accepted {value : Json} {market : SpotMarket} (hbase : base.Accepted)
    (h : parseSpotMarket value path base = .ok market) : market.Accepted := by
  simp only [parseSpotMarket, except_bind_eq_ok] at h
  obtain ⟨_, -, _, -, size, hsize, h⟩ := h
  split at h
  · cases h
  · rename_i hmost
    simp only [except_bind_eq_ok, pure, Except.pure, Except.ok.injEq] at h
    obtain ⟨_, hprecision, _, hbaseToken, _, hquoteToken, _, -, rfl⟩ := h
    have hnonneg := (nonNegativeInteger_eq_ok.mp hsize).2.2
    exact
      { base := hbase
        sizeDecimals := ⟨hnonneg, Int.not_lt.mp hmost⟩
        pricePrecision := parsePricePrecision_accepted hprecision
        baseToken := parseToken_accepted hbaseToken
        quoteToken := parseToken_accepted hquoteToken }

theorem parseOutcomeMarket_accepted {value : Json} {market : OutcomeMarket} (hbase : base.Accepted)
    (h : parseOutcomeMarket value path base = .ok market) : market.Accepted := by
  simp only [parseOutcomeMarket, except_bind_eq_ok, pure, Except.pure, Except.ok.injEq] at h
  obtain ⟨_, -, _, -, _, houtcome, _, hname, _, hdescription, _, -, _, hside, _, hencoding,
    _, -, _, -, rfl⟩ := h
  exact
    { base := hbase
      outcome := (nonNegativeInteger_eq_ok.mp houtcome).2
      outcomeName := (boundedString_eq_ok.mp hname).2
      description := (boundedString_eq_ok.mp hdescription).2
      sideName := (boundedString_eq_ok.mp hside).2
      encoding := (nonNegativeInteger_eq_ok.mp hencoding).2 }

theorem parseMarket_accepted (value : Json) (index : ℕ) (market : Market)
    (h : parseMarket value index = .ok market) : market.Accepted := by
  have hmap : ∀ {α : Type} {x : Parsed α} {f : α → Market},
      x.map f = .ok market → ∃ a, x = .ok a ∧ f a = market := by
    intro α x f hx
    cases x with
    | error error => cases hx
    | ok a =>
      cases hx
      exact ⟨a, rfl, rfl⟩
  simp only [parseMarket, except_bind_eq_ok] at h
  obtain ⟨candidate, -, family, -, _, -, base, hbase, h⟩ := h
  have haccepted := parseBaseMarket_accepted hbase
  cases family with
  | perp =>
    obtain ⟨perp, hperp, rfl⟩ := hmap h
    exact parsePerpMarket_accepted haccepted hperp
  | spot =>
    obtain ⟨spot, hspot, rfl⟩ := hmap h
    exact parseSpotMarket_accepted haccepted hspot
  | outcome =>
    obtain ⟨outcome, houtcome, rfl⟩ := hmap h
    exact parseOutcomeMarket_accepted haccepted houtcome

theorem parseQuarantinedMarket_accepted (value : Json) (index : ℕ)
    (market : QuarantinedMarket) (h : parseQuarantinedMarket value index = .ok market) :
    market.Accepted := by
  simp only [parseQuarantinedMarket, except_bind_eq_ok, pure, Except.pure, Except.ok.injEq] at h
  obtain ⟨_, -, _, -, _, hid, _, hsymbol, _, hcoin, _, hdexIndex, _, hdexName, _, hindex, _,
    hasset, _, -, _, -, _, hreasons, rfl⟩ := h
  exact
    { canonicalId := (boundedString_eq_ok.mp hid).2
      displaySymbol := (boundedString_eq_ok.mp hsymbol).2
      coin := (boundedString_eq_ok.mp hcoin).2
      dexIndex := nullableNonNegativeInteger_accepted hdexIndex
      dexName := nullableBoundedString_accepted hdexName
      universeIndex := (nonNegativeInteger_eq_ok.mp hindex).2
      orderAssetId := (nonNegativeInteger_eq_ok.mp hasset).2
      reasons := stringArray_accepted hreasons }

theorem errorStatus_range (value : Option Json) (path : String) (n : ℤ)
    (h : errorStatus value path = .ok n) : 400 ≤ n ∧ n ≤ 599 := by
  simp only [errorStatus, except_bind_eq_ok] at h
  obtain ⟨status, -, h⟩ := h
  split at h
  · cases h
  · cases h
    omega

theorem parseSourceError_accepted (value : Json) (index : ℕ) (error : CatalogSourceError)
    (h : parseSourceError value index = .ok error) : error.Accepted := by
  simp only [parseSourceError, except_bind_eq_ok, pure, Except.pure, Except.ok.injEq] at h
  obtain ⟨_, -, _, -, _, hsource, _, hmessage, _, hstatus, _, hdelay, rfl⟩ := h
  exact
    { source := (boundedString_eq_ok.mp hsource).2
      message := (boundedString_eq_ok.mp hmessage).2
      status := Catalog.optional_forall errorStatus_range hstatus
      retryAfterMs := Catalog.optional_forall
        (fun _ _ _ hread => (nonNegativeInteger_eq_ok.mp hread).2) hdelay }

end Snapshot

open Snapshot in
theorem parseMarketCatalogSnapshot_accepted {value : Json} {snapshot : MarketCatalogSnapshot}
    (h : parseMarketCatalogSnapshot value = .ok snapshot) : snapshot.Accepted := by
  simp only [parseMarketCatalogSnapshot, except_bind_eq_ok] at h
  obtain ⟨source, -, h⟩ := h
  split at h
  · simp only [except_bind_eq_ok, pure, Except.pure, Except.ok.injEq] at h
    obtain ⟨_, -, _, hgeneration, _, hpublished, _, hmarkets, _, hquarantined, _, herrors, rfl⟩ := h
    obtain ⟨hmarketCount, hmarkets⟩ := parseEntries_accepted parseMarket_accepted hmarkets
    obtain ⟨hquarantinedCount, hquarantined⟩ :=
      parseEntries_accepted parseQuarantinedMarket_accepted hquarantined
    obtain ⟨herrorCount, herrors⟩ :=
      parseEntries_accepted parseSourceError_accepted herrors
    exact
      { generation := (positiveInteger_eq_ok.mp hgeneration).2
        publishedAtMs := (positiveInteger_eq_ok.mp hpublished).2
        catalog :=
          { marketCount := hmarketCount
            markets := hmarkets
            quarantinedCount := hquarantinedCount
            quarantined := hquarantined
            errorCount := herrorCount
            sourceErrors := herrors } }
  · cases h

/-- What is read is within every check and has no page of builder DEXes, and it is read back
from what it is written as. -/
theorem snapshots_read_iff (snapshot : MarketCatalogSnapshot) :
    ((∃ value, parseMarketCatalogSnapshot value = .ok snapshot) ↔
      snapshot = snapshot.published ∧ snapshot.Accepted) ∧
    ((∃ value, parseMarketCatalogSnapshot value = .ok snapshot) ↔
      parseMarketCatalogSnapshot snapshot.toJson = .ok snapshot) := by
  have hwritten := parseMarketCatalogSnapshot_toJson snapshot snapshot
  have hread : (∃ value, parseMarketCatalogSnapshot value = .ok snapshot) →
      snapshot = snapshot.published ∧ snapshot.Accepted := by
    rintro ⟨value, h⟩
    refine ⟨?_, parseMarketCatalogSnapshot_accepted h⟩
    simp only [parseMarketCatalogSnapshot, except_bind_eq_ok] at h
    obtain ⟨source, -, h⟩ := h
    split at h
    · simp only [except_bind_eq_ok, pure, Except.pure, Except.ok.injEq] at h
      obtain ⟨_, -, _, -, _, -, _, -, _, -, _, -, rfl⟩ := h
      rfl
    · cases h
  exact ⟨⟨hread, fun h => ⟨_, hwritten.mpr h⟩⟩, fun h => hwritten.mpr (hread h), fun h => ⟨_, h⟩⟩

end HyperTrader
