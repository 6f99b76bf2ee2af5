import HyperTrader.Library.Ascii
import HyperTrader.Markets.Publication

/-!
# A discovered catalog as a snapshot

Discovery sees to most of what a client asks of a snapshot: the prices are decimals,
the precisions are those of the sizes, no number is negative. What is left to the client
are limits that discovery does not know: how long a text is, how large a number is, how
many entries there are, and that a symbol is not empty.
-/

namespace HyperTrader

open Library

/-! ### The limits -/

structure BaseMarket.WithinLimits (market : BaseMarket) : Prop where
  canonicalId : utf16Length market.canonicalId ≤ 256
  displaySymbol : market.displaySymbol ≠ "" ∧ utf16Length market.displaySymbol ≤ 256
  coin : utf16Length market.coin ≤ 256
  universeIndex : isSafeInteger market.universeIndex
  orderAssetId : isSafeInteger market.orderAssetId

structure TokenIdentity.WithinLimits (token : TokenIdentity) : Prop where
  tokenId : utf16Length token.tokenId ≤ 256
  name : utf16Length token.name ≤ 256
  fullName : ∀ text ∈ token.fullName, utf16Length text ≤ 256

structure PerpMarket.WithinLimits (market : PerpMarket) : Prop where
  base : market.toBaseMarket.WithinLimits
  dexIndex : isSafeInteger market.dexIndex
  dexName : utf16Length market.dexName ≤ 128
  dexFullName : ∀ text ∈ market.dexFullName, utf16Length text ≤ 256
  marginMode : ∀ text ∈ market.marginMode, utf16Length text ≤ 128

structure SpotMarket.WithinLimits (market : SpotMarket) : Prop where
  base : market.toBaseMarket.WithinLimits
  baseToken : market.baseToken.WithinLimits
  quoteToken : market.quoteToken.WithinLimits

structure OutcomeMarket.WithinLimits (market : OutcomeMarket) : Prop where
  base : market.toBaseMarket.WithinLimits
  outcomeName : utf16Length market.outcomeName ≤ 256
  description : utf16Length market.description ≤ 4096
  sideName : utf16Length market.sideName ≤ 256

def Market.WithinLimits : Market → Prop
  | .perp market => market.WithinLimits
  | .spot market => market.WithinLimits
  | .outcome market => market.WithinLimits

structure QuarantinedMarket.WithinLimits (market : QuarantinedMarket) : Prop where
  canonicalId : utf16Length market.canonicalId ≤ 256
  displaySymbol : market.displaySymbol ≠ "" ∧ utf16Length market.displaySymbol ≤ 256
  coin : utf16Length market.coin ≤ 256
  dexIndex : ∀ n ∈ market.dexIndex, isSafeInteger n
  dexName : ∀ text ∈ market.dexName, utf16Length text ≤ 128
  universeIndex : isSafeInteger market.universeIndex
  orderAssetId : isSafeInteger market.orderAssetId
  reasons : ∀ text ∈ market.reasons, utf16Length text ≤ 1024

structure CatalogSourceError.WithinLimits (error : CatalogSourceError) : Prop where
  source : utf16Length error.source ≤ 256
  message : error.message ≠ "" ∧ utf16Length error.message ≤ 1024
  status : ∀ n ∈ error.status, 400 ≤ n ∧ n ≤ 599
  retryAfterMs : ∀ n ∈ error.retryAfterMs, isSafeInteger n ∧ 0 ≤ n

structure MarketCatalog.WithinLimits (catalog : MarketCatalog) : Prop where
  marketCount : catalog.markets.length ≤ 20000
  markets : ∀ market ∈ catalog.markets, market.WithinLimits
  quarantinedCount : catalog.quarantined.length ≤ 20000
  quarantined : ∀ market ∈ catalog.quarantined, market.WithinLimits
  errorCount : catalog.sourceErrors.length ≤ 2000
  sourceErrors : ∀ error ∈ catalog.sourceErrors, error.WithinLimits

variable {text : String} {maximum : ℕ} {catalog : MarketCatalog}

theorem Snapshot.fits_false :
    Snapshot.fits text maximum false ↔ text ≠ "" ∧ utf16Length text ≤ maximum := by
  simp [Snapshot.fits]

theorem Snapshot.fits_true : Snapshot.fits text maximum true ↔ utf16Length text ≤ maximum := by
  simp [Snapshot.fits]

/-! ### What is accepted is within the limits -/

theorem BaseMarket.Accepted.withinLimits {market : BaseMarket} (h : market.Accepted) :
    market.WithinLimits :=
  { canonicalId := h.canonicalId.2
    displaySymbol := Snapshot.fits_false.mp h.displaySymbol
    coin := h.coin.2
    universeIndex := h.universeIndex.1
    orderAssetId := h.orderAssetId.1 }

theorem TokenIdentity.Accepted.withinLimits {token : TokenIdentity}
    (h : token.Accepted) : token.WithinLimits :=
  { tokenId := h.tokenId.2
    name := h.name.2
    fullName := fun text hmem => (h.fullName text hmem).2 }

theorem Market.Accepted.withinLimits {market : Market} (h : market.Accepted) :
    market.WithinLimits := by
  cases market with
  | perp market =>
    exact
      { base := h.base.withinLimits
        dexIndex := h.dexIndex.1
        dexName := h.dexName.2
        dexFullName := fun text hmem => (h.dexFullName text hmem).2
        marginMode := fun text hmem => (h.marginMode text hmem).2 }
  | spot market =>
    exact
      { base := h.base.withinLimits
        baseToken := h.baseToken.withinLimits
        quoteToken := h.quoteToken.withinLimits }
  | outcome market =>
    exact
      { base := h.base.withinLimits
        outcomeName := h.outcomeName.2
        description := h.description.2
        sideName := h.sideName.2 }

theorem QuarantinedMarket.Accepted.withinLimits {market : QuarantinedMarket}
    (h : market.Accepted) : market.WithinLimits :=
  { canonicalId := h.canonicalId.2
    displaySymbol := Snapshot.fits_false.mp h.displaySymbol
    coin := h.coin.2
    dexIndex := fun n hmem => (h.dexIndex n hmem).1
    dexName := fun text hmem => (h.dexName text hmem).2
    universeIndex := h.universeIndex.1
    orderAssetId := h.orderAssetId.1
    reasons := fun text hmem => (h.reasons.2 text hmem).2 }

theorem CatalogSourceError.Accepted.withinLimits {error : CatalogSourceError}
    (h : error.Accepted) : error.WithinLimits :=
  { source := h.source.2
    message := Snapshot.fits_false.mp h.message
    status := h.status
    retryAfterMs := h.retryAfterMs }

theorem MarketCatalog.Accepted.withinLimits (h : catalog.Accepted) : catalog.WithinLimits :=
  { marketCount := h.marketCount
    markets := fun market hmem => (h.markets market hmem).withinLimits
    quarantinedCount := h.quarantinedCount
    quarantined := fun market hmem => (h.quarantined market hmem).withinLimits
    errorCount := h.errorCount
    sourceErrors := fun error hmem => (h.sourceErrors error hmem).withinLimits }

/-! ### What discovery sees to -/

namespace Catalog

variable {value : Option Json} {path coin : String} {α : Type}
  {source asset rawAsset rawMarket payload : Json} {dex : DexDescriptor} {contexts : List Json}
  {index : ℕ} {market : QuarantinedMarket} {token : TokenIdentity} {tokens : List TokenIdentity}
  {error : CatalogSourceError} {quarantined : List QuarantinedMarket}

theorem string_eq_ok {text : String} :
    string value path = .ok text ↔ value = some (.string text) ∧ text ≠ "" := by
  unfold string
  split
  · rename_i other
    constructor
    · intro h
      split at h
      · cases h
      · cases h
        exact ⟨rfl, ‹_›⟩
    · rintro ⟨h, hne⟩
      cases h
      exact if_neg hne
  · rename_i hstring
    constructor
    · intro h
      cases h
    · rintro ⟨rfl, -⟩
      exact absurd rfl (hstring text)

theorem nullableString_ne_empty {text : Option String} (h : nullableString value path = .ok text) :
    ∀ t ∈ text, t ≠ "" := by
  unfold nullableString at h
  split at h
  · cases h
    exact fun _ hmem => by cases hmem
  · cases h
    exact fun _ hmem => by cases hmem
  · cases hstring : string value path with
    | error error =>
      rw [hstring] at h
      cases h
    | ok t =>
      rw [hstring] at h
      cases h
      intro t' hmem
      cases hmem
      exact (string_eq_ok.mp hstring).2

theorem optional_forall {parse : Option Json → String → Parsed α}
    {p : α → Prop} {key : String} {a : Option α}
    (hparse : ∀ value path a, parse value path = .ok a → p a)
    (h : optional parse source key path = .ok a) : ∀ b ∈ a, p b := by
  unfold optional at h
  split at h
  · cases h
    exact fun _ hmem => by cases hmem
  · rename_i value _
    cases hread : parse (some value) (path ++ "." ++ key) with
    | error error =>
      rw [hread] at h
      cases h
    | ok b =>
      rw [hread] at h
      cases h
      intro b' hmem
      cases hmem
      exact hparse _ _ _ hread

theorem parseDecimalString_decimal (value : Option Json) (path text : String)
    (h : parseDecimalString value path = .ok text) : isDecimalString text = true :=
  (parseDecimalString_eq_ok.mp h).2

theorem parseNullableDecimalString_decimal (value : Option Json) (path : String)
    (price : Option String) (h : parseNullableDecimalString value path = .ok price) :
    ∀ text ∈ price, isDecimalString text = true := by
  unfold parseNullableDecimalString at h
  split at h
  · cases h
    exact fun _ hmem => by cases hmem
  · cases hread : parseDecimalString value path with
    | error error =>
      rw [hread] at h
      cases h
    | ok text =>
      rw [hread] at h
      cases h
      intro text' hmem
      cases hmem
      exact parseDecimalString_decimal _ _ _ hread

theorem impactPrices_decimal (value : Option Json) (path : String)
    (prices : Option (String × String)) (h : impactPrices value path = .ok prices) :
    ∀ pair ∈ prices, isDecimalString pair.1 = true ∧ isDecimalString pair.2 = true := by
  unfold impactPrices at h
  split at h
  · cases h
    exact fun _ hmem => by cases hmem
  · simp only [except_bind_eq_ok] at h
    obtain ⟨items, -, h⟩ := h
    split at h
    · simp only [except_bind_eq_ok, pure, Except.pure, Except.ok.injEq] at h
      obtain ⟨bid, hbid, ask, hask, rfl⟩ := h
      intro pair hmem
      cases hmem
      exact ⟨parseDecimalString_decimal _ _ _ hbid, parseDecimalString_decimal _ _ _ hask⟩
    · cases h

theorem parseMarketContext_decimal
    {context : MarketContext} (h : parseMarketContext value path = .ok context) :
    context.Decimal := by
  simp only [parseMarketContext, except_bind_eq_ok, pure, Except.pure, Except.ok.injEq] at h
  obtain ⟨source, -, _, himpact, _, h1, _, h2, _, h3, _, h4, _, h5, _, h6, _, h7, _, h8, _,
    h9, rfl⟩ := h
  exact
    { dayNtlVlm := optional_forall parseDecimalString_decimal h1
      dayBaseVlm := optional_forall parseDecimalString_decimal h2
      funding := optional_forall parseDecimalString_decimal h3
      impactPxs := optional_forall impactPrices_decimal himpact
      markPx := optional_forall parseDecimalString_decimal h4
      midPx := optional_forall parseNullableDecimalString_decimal h5
      openInterest := optional_forall parseDecimalString_decimal h6
      oraclePx := optional_forall parseDecimalString_decimal h7
      premium := optional_forall parseNullableDecimalString_decimal h8
      prevDayPx := optional_forall parseDecimalString_decimal h9 }

theorem emptyContext_decimal :
    (⟨none, none, none, none, none, none, none, none, none, none⟩ : MarketContext).Decimal := by
  constructor <;> exact fun _ hmem => by cases hmem

theorem pricePrecisionForSizeDecimals_eq_some {family : MarketFamily} {size : ℤ}
    {precision : PricePrecisionInputs}
    (h : pricePrecisionForSizeDecimals family size = some precision) :
    0 ≤ size ∧ size ≤ (if family = .perp then 6 else 8) ∧
      precision = ⟨5, (if family = .perp then 6 else 8) - size⟩ := by
  unfold pricePrecisionForSizeDecimals at h
  dsimp only at h
  generalize (if family = .perp then (6 : ℤ) else 8) = maximum at h ⊢
  by_cases hout : size < 0 ∨ maximum < size
  · rw [if_pos hout] at h
    cases h
  · rw [if_neg hout] at h
    cases h
    exact ⟨by omega, by omega, rfl⟩

/-! ### Perpetual markets -/

structure Named (dex : DexDescriptor) : Prop where
  index : 0 ≤ dex.index
  fullName : ∀ text ∈ dex.fullName, text ≠ ""

theorem perpOrderAssetId_nonneg {dex index : ℤ} (hdex : 0 ≤ dex) (hindex : 0 ≤ index) :
    0 ≤ perpOrderAssetId dex index := by
  unfold perpOrderAssetId
  split <;> omega

theorem perpCanonicalId_ne_empty (dex index : ℤ) : perpCanonicalId dex index ≠ "" := by
  intro h
  have hhead := congrArg (fun text : String => text.toList.head?) h
  simp [perpCanonicalId, String.toList_append] at hhead

theorem perpMarket_accepted {market : PerpMarket} (hdex : Named dex) (hcoin : coin ≠ "")
    (h : perpMarket dex contexts asset coin index = .ok (.ok market))
    (hlimits : market.WithinLimits) : market.Accepted := by
  simp only [perpMarket, except_bind_eq_ok] at h
  obtain ⟨sizeDecimals, -, isDelisted, -, h⟩ := h
  split at h
  · rename_i pricePrecision rawContext hprecision hcontext
    simp only [except_bind_eq_ok] at h
    obtain ⟨maxLeverage, hleverage, h⟩ := h
    split at h
    · cases h
    · rename_i hne
      simp only [except_bind_eq_ok, pure, Except.pure, Except.ok.injEq] at h
      obtain ⟨context, hprices, onlyIsolated, -, marginMode, hmode, marginTableId, htable, rfl⟩ := h
      obtain ⟨-, hsafe, hnonneg⟩ := integer_eq_ok.mp hleverage
      obtain ⟨hsize, hmost, hmatches⟩ :=
        pricePrecisionForSizeDecimals_eq_some hprecision
      have hpositive : 1 ≤ maxLeverage := by omega
      have hbase := hlimits.base
      exact
        { base :=
            { canonicalId := Snapshot.fits_false.mpr
                ⟨perpCanonicalId_ne_empty _ _, hbase.canonicalId⟩
              displaySymbol := Snapshot.fits_false.mpr hbase.displaySymbol
              coin := Snapshot.fits_false.mpr ⟨hcoin, hbase.coin⟩
              universeIndex := ⟨hbase.universeIndex, Int.natCast_nonneg index⟩
              orderAssetId := ⟨hbase.orderAssetId,
                perpOrderAssetId_nonneg hdex.index (Int.natCast_nonneg index)⟩
              validationReasons := ⟨Nat.zero_le _, fun _ hmem => by cases hmem⟩
              context := parseMarketContext_decimal hprices }
          dexIndex := ⟨hlimits.dexIndex, hdex.index⟩
          dexName := Snapshot.fits_true.mpr hlimits.dexName
          dexFullName := fun text hmem => Snapshot.fits_false.mpr
            ⟨hdex.fullName text hmem, hlimits.dexFullName text hmem⟩
          sizeDecimals := ⟨hsize, hmost⟩
          pricePrecision := hmatches
          maxLeverage := ⟨hsafe, hpositive⟩
          marginMode := fun text hmem => Snapshot.fits_false.mpr
            ⟨nullableString_ne_empty hmode text hmem, hlimits.marginMode text hmem⟩
          marginTableId := optional_forall
            (fun _ _ _ hread => (integer_eq_ok.mp hread).2) htable }
  · cases h
  · cases h

def Reasons (reasons : List String) : Prop :=
  reasons.length ≤ 64 ∧ ∀ text ∈ reasons, text ≠ ""

theorem reasons_singleton {reason : String} (h : reason ≠ "") : Reasons [reason] := by
  constructor
  · exact Nat.le_add_left 1 63
  · intro text hmem
    rw [List.mem_singleton.mp hmem]
    exact h

theorem error_text_ne_empty (error : ValidationError) : error.text ≠ "" := by
  intro h
  have hlength := congrArg String.length h
  simp [ValidationError.text] at hlength

theorem perpReasons_reasons (precision : Option PricePrecisionInputs)
    (isDelisted : Bool) : Reasons (perpReasons precision isDelisted) := by
  unfold perpReasons Reasons
  split <;> split <;> simp

theorem quarantinePerp_accepted
    {reasons : List String} {delisted : Bool} (hdex : Named dex) (hcoin : coin ≠ "")
    (hreasons : Reasons reasons)
    (hlimits : (quarantinePerp dex index coin reasons delisted).WithinLimits) :
    (quarantinePerp dex index coin reasons delisted).Accepted :=
  { canonicalId := Snapshot.fits_false.mpr
      ⟨perpCanonicalId_ne_empty _ _, hlimits.canonicalId⟩
    displaySymbol := Snapshot.fits_false.mpr hlimits.displaySymbol
    coin := Snapshot.fits_false.mpr ⟨hcoin, hlimits.coin⟩
    dexIndex := by
      intro n hmem
      cases hmem
      exact ⟨hlimits.dexIndex _ rfl, hdex.index⟩
    dexName := fun text hmem => Snapshot.fits_true.mpr (hlimits.dexName text hmem)
    universeIndex := ⟨hlimits.universeIndex, Int.natCast_nonneg index⟩
    orderAssetId := ⟨hlimits.orderAssetId,
      perpOrderAssetId_nonneg hdex.index (Int.natCast_nonneg index)⟩
    reasons := ⟨hreasons.1, fun text hmem => Snapshot.fits_false.mpr
      ⟨hreasons.2 text hmem, hlimits.reasons text hmem⟩⟩ }

theorem perpMarket_quarantined
    (h : perpMarket dex contexts asset coin index = .ok (.error market)) :
    ∃ reasons delisted, Reasons reasons ∧
      market = quarantinePerp dex index coin reasons delisted := by
  simp only [perpMarket, except_bind_eq_ok] at h
  obtain ⟨sizeDecimals, -, isDelisted, -, h⟩ := h
  split at h
  · simp only [except_bind_eq_ok] at h
    obtain ⟨maxLeverage, -, h⟩ := h
    split at h
    · cases h
      exact ⟨_, _, reasons_singleton (by decide), rfl⟩
    · simp only [except_bind_eq_ok, pure, Except.pure, Except.ok.injEq] at h
      obtain ⟨_, -, _, -, _, -, _, -, h⟩ := h
      cases h
  · cases h
    exact ⟨_, _, reasons_singleton (by decide), rfl⟩
  · cases h
    exact ⟨_, _, perpReasons_reasons _ _, rfl⟩

theorem perpEntry_accepted {market : PerpMarket} (hdex : Named dex)
    (h : perpEntry dex contexts rawAsset index = .ok market)
    (hlimits : market.WithinLimits) : market.Accepted := by
  unfold perpEntry at h
  split at h
  · cases h
  · rename_i asset coin hcoin
    simp only [perpCoin, except_bind_eq_ok, pure, Except.pure, Except.ok.injEq,
      Prod.mk.injEq] at hcoin
    obtain ⟨_, -, _, hname, rfl, rfl⟩ := hcoin
    split at h
    · cases h
    · rename_i entry hentry
      subst h
      exact perpMarket_accepted hdex (string_eq_ok.mp hname).2 hentry hlimits

theorem perpEntry_quarantined (hdex : Named dex)
    (h : perpEntry dex contexts rawAsset index = .error market)
    (hlimits : market.WithinLimits) : market.Accepted := by
  unfold perpEntry at h
  split at h
  · cases h
    refine quarantinePerp_accepted hdex ?_ (reasons_singleton (error_text_ne_empty _)) hlimits
    intro hempty
    have hlength := congrArg String.length hempty
    simp at hlength
  · rename_i asset coin hcoin
    simp only [perpCoin, except_bind_eq_ok, pure, Except.pure, Except.ok.injEq,
      Prod.mk.injEq] at hcoin
    obtain ⟨_, -, _, hname, rfl, rfl⟩ := hcoin
    have hne := (string_eq_ok.mp hname).2
    split at h
    · cases h
      exact quarantinePerp_accepted hdex hne (reasons_singleton (error_text_ne_empty _))
        hlimits
    · rename_i entry hentry
      subst h
      obtain ⟨reasons, delisted, hreasons, rfl⟩ := perpMarket_quarantined hentry
      exact quarantinePerp_accepted hdex hne hreasons hlimits

/-! ### Spot markets -/

theorem asciiLower_address {address : String} (h : addressPattern.test address = true) :
    lowercaseAddressPattern.test (asciiLower address) = true ∧
      Snapshot.fits (asciiLower address) 42 false := by
  have hlower : lowercaseAddressPattern.test (asciiLower address) = true := by
    refine TextPattern.test_asciiLower addressPattern _ ?_ ?_ rfl rfl h
    · decide
    · intro byte hbyte
      exact isLowerHexDigit_lowerByte hbyte
  refine ⟨hlower, ?_⟩
  obtain ⟨body, hbody, hleast, hmost, hdigits⟩ := TextPattern.test_iff.mp hlower
  have hlead : textBytes lowercaseAddressPattern.lead = [48, 120] := by decide
  have hdigit : ∀ byte, isLowerHexDigit byte = true → byte.toNat < 128 := by
    intro byte hbyte
    simp only [isLowerHexDigit, Bool.or_eq_true, inRange_iff] at hbyte
    have h9 : '9'.toNat = 57 := rfl
    have hf : 'f'.toNat = 102 := rfl
    omega
  have hascii : ∀ byte ∈ textBytes (asciiLower address), byte.toNat < 128 := by
    intro byte hbyte
    rw [hbody, hlead, List.mem_append] at hbyte
    rcases hbyte with hbyte | hbyte
    · simp only [List.mem_cons, List.not_mem_nil, or_false] at hbyte
      rcases hbyte with rfl | rfl <;> decide
    · exact hdigit byte (hdigits byte hbyte)
  have hlength : utf16Length (asciiLower address) = 2 + body.length := by
    rw [utf16Length_of_ascii hascii, hbody, hlead, List.length_append]
    rfl
  have hbound : body.length ≤ 40 := hmost
  refine Snapshot.fits_false.mpr ⟨?_, by omega⟩
  intro hempty
  rw [hempty] at hlength
  have hzero : utf16Length "" = 0 := by decide
  omega

theorem parseEvmContract_accepted
    {contract : Option TokenEvmContract} (h : parseEvmContract value path = .ok contract) :
    ∀ c ∈ contract, c.Accepted := by
  unfold parseEvmContract at h
  split at h
  · cases h
    exact fun _ hmem => by cases hmem
  · cases h
    exact fun _ hmem => by cases hmem
  · simp only [except_bind_eq_ok] at h
    obtain ⟨source, -, address, -, h⟩ := h
    split at h
    · rename_i hpattern
      simp only [except_bind_eq_ok] at h
      obtain ⟨extra, -, h⟩ := h
      split at h
      · rename_i hrange
        cases h
        obtain ⟨hlower, hfits⟩ := asciiLower_address hpattern
        intro c hmem
        cases hmem
        have hsafe : isSafeInteger extra := by
          unfold isSafeInteger
          omega
        exact ⟨hfits, hlower, hsafe, hrange⟩
      · cases h
    · cases h

theorem parseToken_accepted {value : Json}
    (h : parseToken value path = .ok token) (hlimits : token.WithinLimits) : token.Accepted := by
  simp only [parseToken, except_bind_eq_ok, pure, Except.pure, Except.ok.injEq] at h
  obtain ⟨_, -, index, hindex, tokenId, htokenId, name, hname, fullName, hfullName,
    size, hsize, wei, hwei, _, -, contract, hcontract, rfl⟩ := h
  exact
    { index := (integer_eq_ok.mp hindex).2
      tokenId := Snapshot.fits_false.mpr ⟨(string_eq_ok.mp htokenId).2, hlimits.tokenId⟩
      name := Snapshot.fits_false.mpr ⟨(string_eq_ok.mp hname).2, hlimits.name⟩
      fullName := fun text hmem => Snapshot.fits_false.mpr
        ⟨nullableString_ne_empty hfullName text hmem, hlimits.fullName text hmem⟩
      sizeDecimals := (integer_eq_ok.mp hsize).2
      weiDecimals := (integer_eq_ok.mp hwei).2
      evmContract := parseEvmContract_accepted hcontract }

theorem tokenAt_mem {index : ℤ} (h : tokenAt tokens index = some token) : token ∈ tokens :=
  List.mem_reverse.mp (List.mem_of_find?_eq_some h)

theorem spotTokens_mem {base quote : TokenIdentity}
    (h : spotTokens tokens source path = .ok (base, quote)) : base ∈ tokens ∧ quote ∈ tokens := by
  simp only [spotTokens, except_bind_eq_ok] at h
  obtain ⟨items, -, h⟩ := h
  split at h
  · simp only [except_bind_eq_ok] at h
    obtain ⟨baseIndex, -, quoteIndex, -, h⟩ := h
    split at h
    · rename_i hbase hquote
      cases h
      exact ⟨tokenAt_mem hbase, tokenAt_mem hquote⟩
    · cases h
  · cases h

theorem spotCanonicalId_ne_empty (index : ℤ) : "spot:" ++ toString index ≠ "" := by
  intro h
  have hlength := congrArg String.length h
  simp at hlength

theorem spotOrderAssetId_nonneg {index : ℤ} (h : 0 ≤ index) : 0 ≤ spotOrderAssetId index :=
  addNumber_nonneg (by decide) h

theorem spotMarket_accepted {index : ℤ} {market : SpotMarket}
    (htokens : ∀ token ∈ tokens, token.WithinLimits → token.Accepted)
    (hcoin : coin ≠ "") (hindex : 0 ≤ index)
    (h : spotMarket tokens contexts source index coin path = .ok market)
    (hlimits : market.WithinLimits) : market.Accepted := by
  simp only [spotMarket, except_bind_eq_ok] at h
  obtain ⟨⟨baseToken, quoteToken⟩, hpair, h⟩ := h
  obtain ⟨hbaseToken, hquoteToken⟩ := spotTokens_mem hpair
  dsimp only at h
  split at h
  · cases h
  · rename_i pricePrecision hprecision
    simp only [except_bind_eq_ok, pure, Except.pure, Except.ok.injEq] at h
    obtain ⟨context, hcontext, isCanonical, -, rfl⟩ := h
    obtain ⟨hsize, hmost, hmatches⟩ := pricePrecisionForSizeDecimals_eq_some hprecision
    have hprices : context.Decimal := by
      unfold parseSpotMarketContext at hcontext
      dsimp only at hcontext
      split at hcontext
      · cases hcontext
      · simp only [except_bind_eq_ok] at hcontext
        obtain ⟨_, -, hcontext⟩ := hcontext
        split at hcontext
        · exact parseMarketContext_decimal hcontext
        · simp only [except_bind_eq_ok] at hcontext
          obtain ⟨_, -, hcontext⟩ := hcontext
          split at hcontext
          · exact parseMarketContext_decimal hcontext
          · simp only [except_bind_eq_ok] at hcontext
            obtain ⟨_, hnever, -⟩ := hcontext
            cases hnever
    have hbase := hlimits.base
    exact
      { base :=
          { canonicalId := Snapshot.fits_false.mpr
              ⟨spotCanonicalId_ne_empty _, hbase.canonicalId⟩
            displaySymbol := Snapshot.fits_false.mpr hbase.displaySymbol
            coin := Snapshot.fits_false.mpr ⟨hcoin, hbase.coin⟩
            universeIndex := ⟨hbase.universeIndex, hindex⟩
            orderAssetId := ⟨hbase.orderAssetId, spotOrderAssetId_nonneg hindex⟩
            validationReasons := ⟨Nat.zero_le _, fun _ hmem => by cases hmem⟩
            context := hprices }
        sizeDecimals := ⟨hsize, hmost⟩
        pricePrecision := hmatches
        baseToken := htokens _ hbaseToken hlimits.baseToken
        quoteToken := htokens _ hquoteToken hlimits.quoteToken }

theorem quarantineSpot_accepted {index : ℤ} {error : ValidationError}
    (hindex : 0 ≤ index) (hcoin : coin ≠ "")
    (hlimits : (quarantineSpot index coin error).WithinLimits) :
    (quarantineSpot index coin error).Accepted := by
  obtain ⟨hcount, hreasons⟩ := reasons_singleton (error_text_ne_empty error)
  exact
    { canonicalId := Snapshot.fits_false.mpr
        ⟨spotCanonicalId_ne_empty _, hlimits.canonicalId⟩
      displaySymbol := Snapshot.fits_false.mpr hlimits.displaySymbol
      coin := Snapshot.fits_false.mpr ⟨hcoin, hlimits.coin⟩
      dexIndex := fun _ hmem => by cases hmem
      dexName := fun _ hmem => by cases hmem
      universeIndex := ⟨hlimits.universeIndex, hindex⟩
      orderAssetId := ⟨hlimits.orderAssetId, spotOrderAssetId_nonneg hindex⟩
      reasons := ⟨hcount, fun text hmem => Snapshot.fits_false.mpr
        ⟨hreasons text hmem, hlimits.reasons text hmem⟩⟩ }

theorem spotEntry_accepted {market : SpotMarket}
    (htokens : ∀ token ∈ tokens, token.WithinLimits → token.Accepted)
    (h : spotEntry tokens contexts rawMarket index = .ok market)
    (hlimits : market.WithinLimits) : market.Accepted := by
  unfold spotEntry at h
  dsimp only at h
  split at h
  · cases h
  · rename_i source universeIndex hindex
    simp only [spotIndex, except_bind_eq_ok, pure, Except.pure, Except.ok.injEq,
      Prod.mk.injEq] at hindex
    obtain ⟨_, -, n, hn, rfl, rfl⟩ := hindex
    split at h
    · cases h
    · rename_i coin hcoin
      split at h
      · cases h
      · rename_i made hmarket
        cases h
        exact spotMarket_accepted htokens (string_eq_ok.mp hcoin).2
          (integer_eq_ok.mp hn).2.2 hmarket hlimits

theorem spotEntry_quarantined (h : spotEntry tokens contexts rawMarket index = .error market)
    (hlimits : market.WithinLimits) : market.Accepted := by
  have hfallback : "@" ++ toString index ≠ "" := by
    intro hempty
    have hlength := congrArg String.length hempty
    simp at hlength
  unfold spotEntry at h
  dsimp only at h
  split at h
  · cases h
    exact quarantineSpot_accepted (Int.natCast_nonneg index) hfallback hlimits
  · rename_i source universeIndex hindex
    simp only [spotIndex, except_bind_eq_ok, pure, Except.pure, Except.ok.injEq,
      Prod.mk.injEq] at hindex
    obtain ⟨_, -, n, hn, rfl, rfl⟩ := hindex
    have hnonneg := (integer_eq_ok.mp hn).2.2
    split at h
    · cases h
      exact quarantineSpot_accepted hnonneg hfallback hlimits
    · rename_i coin hcoin
      split at h
      · cases h
        exact quarantineSpot_accepted hnonneg (string_eq_ok.mp hcoin).2 hlimits
      · cases h

/-! ### Outcome markets -/

theorem outcomeSide_accepted {outcomeId : ℤ} {outcomeName description : String}
    {rawSide : Json} {side : Fin 2} {market : OutcomeMarket}
    (hid : isSafeInteger outcomeId ∧ 0 ≤ outcomeId) (hname : outcomeName ≠ "")
    (h : outcomeSide outcomeId outcomeName description path rawSide side = .ok market)
    (hlimits : market.WithinLimits) : market.Accepted := by
  simp only [outcomeSide, except_bind_eq_ok, pure, Except.pure, Except.ok.injEq] at h
  obtain ⟨_, -, name, hside, rfl⟩ := h
  have hbase := hlimits.base
  have hnamed : ∀ (text : String) (c : Char), String.ofList [c] ++ text ≠ "" := by
    intro text c hempty
    have hlength := congrArg String.length hempty
    simp at hlength
  exact
    { base :=
        { canonicalId := by
            refine Snapshot.fits_false.mpr ⟨?_, hbase.canonicalId⟩
            intro hempty
            have hlength := congrArg String.length hempty
            simp at hlength
          displaySymbol := Snapshot.fits_false.mpr hbase.displaySymbol
          coin := Snapshot.fits_false.mpr ⟨hnamed _ '#', hbase.coin⟩
          universeIndex := ⟨hbase.universeIndex, Int.natCast_nonneg _⟩
          orderAssetId := ⟨hbase.orderAssetId, Int.natCast_nonneg _⟩
          validationReasons := by
            constructor
            · exact Nat.le_add_left 1 63
            · intro text hmem
              rw [List.mem_singleton.mp hmem]
              decide
          context := emptyContext_decimal }
      outcome := hid
      outcomeName := Snapshot.fits_false.mpr ⟨hname, hlimits.outcomeName⟩
      description := Snapshot.fits_true.mpr hlimits.description
      sideName := Snapshot.fits_false.mpr ⟨(string_eq_ok.mp hside).2, hlimits.sideName⟩
      encoding := ⟨hbase.universeIndex, Int.natCast_nonneg _⟩ }

theorem parseOutcomeSource_accepted {markets : List OutcomeMarket}
    (h : parseOutcomeSource payload = .ok markets) :
    ∀ market ∈ markets, market.WithinLimits → market.Accepted := by
  simp only [parseOutcomeSource, except_bind_eq_ok, pure, Except.pure, Except.ok.injEq] at h
  obtain ⟨_, -, outcomes, -, sides, hread, rfl⟩ := h
  intro market hmem
  obtain ⟨pair, hpair, hmem⟩ := List.mem_flatten.mp hmem
  obtain ⟨entry, -, hentry⟩ := exists_of_mem_forall₂ (mapM_eq_ok.mp hread) hpair
  simp only [parseOutcome, except_bind_eq_ok] at hentry
  obtain ⟨_, -, outcomeId, hid, outcomeName, hname, description, -, listed, -, hentry⟩ :=
    hentry
  split at hentry
  · simp only [except_bind_eq_ok, pure, Except.pure, Except.ok.injEq] at hentry
    obtain ⟨first, hfirst, second, hsecond, rfl⟩ := hentry
    have hsafe := (integer_eq_ok.mp hid).2
    have hne := (string_eq_ok.mp hname).2
    rcases List.mem_cons.mp hmem with rfl | hmem
    · exact outcomeSide_accepted hsafe hne hfirst
    · obtain rfl := List.mem_singleton.mp hmem
      exact outcomeSide_accepted hsafe hne hsecond
  · cases hentry

/-! ### All sources -/

structure Readable (settled : SettledSource) : Prop where
  perps : ∀ market ∈ settled.perps, market.WithinLimits → market.Accepted
  spots : ∀ market ∈ settled.spots, market.WithinLimits → market.Accepted
  outcomes : ∀ market ∈ settled.outcomes, market.WithinLimits → market.Accepted
  quarantinedPerps : ∀ market ∈ settled.quarantinedPerps,
    market.WithinLimits → market.Accepted
  quarantinedSpots : ∀ market ∈ settled.quarantinedSpots,
    market.WithinLimits → market.Accepted
  errors : ∀ error ∈ settled.errors, error.WithinLimits → error.Accepted

theorem noSource_readable : Readable noSource := by
  constructor <;> exact fun _ hmem => by cases hmem

theorem error_accepted (hsource : error.source ≠ "")
    (hlimits : error.WithinLimits) : error.Accepted :=
  { source := Snapshot.fits_false.mpr ⟨hsource, hlimits.source⟩
    message := Snapshot.fits_false.mpr hlimits.message
    status := hlimits.status
    retryAfterMs := hlimits.retryAfterMs }

theorem error_readable (hsource : error.source ≠ "") :
    Readable { noSource with errors := [error] } :=
  { noSource_readable with
    errors := by
      intro other hmem
      rw [List.mem_singleton.mp hmem]
      exact error_accepted hsource }

theorem mem_settle_quarantined {entries : List (Except QuarantinedMarket α)}
    : market ∈ (settle entries).2 ↔ .error market ∈ entries := by
  simp only [settle, List.mem_filterMap]
  constructor
  · rintro ⟨entry, hmem, hentry⟩
    cases entry with
    | error other =>
      cases hentry
      exact hmem
    | ok a => cases hentry
  · intro hmem
    exact ⟨_, hmem, rfl⟩

theorem parsePerpSource_readable {markets : List PerpMarket}
    (hdex : Named dex) (h : parsePerpSource payload dex = .ok (markets, quarantined)) :
    (∀ market ∈ markets, market.WithinLimits → market.Accepted) ∧
      ∀ market ∈ quarantined, market.WithinLimits → market.Accepted := by
  simp only [parsePerpSource, except_bind_eq_ok, pure, Except.pure, Except.ok.injEq] at h
  obtain ⟨⟨metadata, rawContexts⟩, -, _, -, listed, -, contexts, -, h⟩ := h
  have hmarkets := congrArg Prod.fst h
  have hquarantined := congrArg Prod.snd h
  dsimp only at hmarkets hquarantined
  constructor
  · intro market hmem
    rw [← hmarkets, mem_settle, List.mem_map] at hmem
    obtain ⟨entry, -, hentry⟩ := hmem
    exact perpEntry_accepted hdex hentry
  · intro market hmem
    rw [← hquarantined, mem_settle_quarantined, List.mem_map] at hmem
    obtain ⟨entry, -, hentry⟩ := hmem
    exact perpEntry_quarantined hdex hentry

theorem parseSpotSource_readable {markets : List SpotMarket}
    (h : parseSpotSource payload = .ok (markets, quarantined)) :
    (∀ market ∈ markets, market.WithinLimits → market.Accepted) ∧
      ∀ market ∈ quarantined, market.WithinLimits → market.Accepted := by
  simp only [parseSpotSource, except_bind_eq_ok, pure, Except.pure, Except.ok.injEq] at h
  obtain ⟨⟨metadata, rawContexts⟩, -, _, -, _, -, tokens, htokens, listed, -, contexts, -, h⟩ := h
  have hread : ∀ token ∈ tokens, token.WithinLimits → token.Accepted := by
    intro token hmem
    obtain ⟨entry, -, hentry⟩ := exists_of_mem_forall₂ (mapM_eq_ok.mp htokens) hmem
    exact parseToken_accepted hentry
  have hmarkets := congrArg Prod.fst h
  have hquarantined := congrArg Prod.snd h
  dsimp only at hmarkets hquarantined
  constructor
  · intro market hmem
    rw [← hmarkets, mem_settle, List.mem_map] at hmem
    obtain ⟨entry, -, hentry⟩ := hmem
    exact spotEntry_accepted hread hentry
  · intro market hmem
    rw [← hquarantined, mem_settle_quarantined, List.mem_map] at hmem
    obtain ⟨entry, -, hentry⟩ := hmem
    exact spotEntry_quarantined hentry

theorem settleSource_readable {source : CatalogSource}
    (hdex : ∀ dex, source.kind = .perp dex → Named dex) (hsource : source.source ≠ "")
    (answer : Except RequestFailure Json) : Readable (settleSource source answer) := by
  unfold settleSource
  split
  · exact error_readable hsource
  · split
    · rename_i dex hkind
      split
      · exact error_readable hsource
      · rename_i hparsed
        obtain ⟨hmarkets, hquarantined⟩ := parsePerpSource_readable (hdex dex hkind) hparsed
        exact { noSource_readable with perps := hmarkets, quarantinedPerps := hquarantined }
    · split
      · exact error_readable hsource
      · rename_i hparsed
        obtain ⟨hmarkets, hquarantined⟩ := parseSpotSource_readable hparsed
        exact { noSource_readable with spots := hmarkets, quarantinedSpots := hquarantined }
    · split
      · exact error_readable hsource
      · rename_i hparsed
        exact { noSource_readable with outcomes := parseOutcomeSource_accepted hparsed }

theorem nativeDex_named : Named nativeDex :=
  ⟨le_rfl, fun _ hmem => by cases hmem⟩

theorem parseDexs_named {dexes : List DexDescriptor}
    (h : parseDexs payload = .ok dexes) : ∀ dex ∈ dexes, Named dex := by
  simp only [parseDexs, except_bind_eq_ok] at h
  obtain ⟨values, -, h⟩ := h
  split at h
  · cases h
    exact fun _ hmem => by cases hmem
  · intro dex hmem
    obtain ⟨entry, -, hread⟩ := exists_of_mem_forall₂ (mapM_eq_ok.mp h) hmem
    simp only [parseDex, except_bind_eq_ok, pure, Except.pure, Except.ok.injEq] at hread
    obtain ⟨_, -, _, -, fullName, hfullName, rfl⟩ := hread
    exact ⟨Int.natCast_nonneg _, nullableString_ne_empty hfullName⟩
  · cases h

theorem discoverDexes_readable (transport : InfoTransport) (scope : CatalogScope) :
    (∀ dex ∈ (discoverDexes transport scope).1, Named dex) ∧
      ∀ error ∈ (discoverDexes transport scope).2, error.WithinLimits → error.Accepted := by
  have hnative : ∀ dex ∈ [nativeDex], Named dex := by
    intro dex hmem
    rw [List.mem_singleton.mp hmem]
    exact nativeDex_named
  have herror : ∀ error : CatalogSourceError, error.source = "perpDexs" →
      ∀ other ∈ [error], other.WithinLimits → other.Accepted := by
    intro error hsource other hmem
    rw [List.mem_singleton.mp hmem]
    apply error_accepted
    rw [hsource]
    decide
  unfold discoverDexes
  split
  · split
    · exact ⟨hnative, herror _ rfl⟩
    · split
      · exact ⟨hnative, herror _ rfl⟩
      · rename_i hparsed
        refine ⟨fun dex hmem => ?_, fun _ hmem => by cases hmem⟩
        rcases List.mem_cons.mp hmem with rfl | hmem
        · exact nativeDex_named
        · exact parseDexs_named hparsed dex hmem
  · exact ⟨hnative, fun _ hmem => by cases hmem⟩

theorem sources_named {network : HyperliquidNetwork} {scope : CatalogScope}
    {builders : List DexDescriptor} (h : ∀ dex ∈ builders, Named dex) :
    ∀ source ∈ sources network scope builders,
      (∀ dex, source.kind = .perp dex → Named dex) ∧ source.source ≠ "" := by
  intro source hmem
  rcases List.mem_append.mp hmem with hmem | hmem
  · rcases List.mem_append.mp hmem with hmem | hmem
    · split at hmem
      · cases hmem
      · obtain rfl := List.mem_singleton.mp hmem
        refine ⟨fun dex hkind => ?_, by decide⟩
        cases hkind
        exact nativeDex_named
    · split at hmem
      · cases hmem
      · rcases List.mem_cons.mp hmem with rfl | hmem
        · exact ⟨fun _ hkind => (by cases hkind), by decide⟩
        · split at hmem
          · obtain rfl := List.mem_singleton.mp hmem
            exact ⟨fun _ hkind => (by cases hkind), by decide⟩
          · cases hmem
  · obtain ⟨builder, hbuilder, rfl⟩ := List.mem_map.mp hmem
    constructor
    · intro dex hkind
      cases hkind
      exact h _ hbuilder
    · intro hempty
      have hlength := congrArg String.length hempty
      simp at hlength

end Catalog

open Catalog

theorem accepted_iff_withinLimits {transport : InfoTransport} {scope : CatalogScope}
    (h : discoverMarketCatalog transport scope = .ok catalog) :
    catalog.Accepted ↔ catalog.WithinLimits := by
  refine ⟨MarketCatalog.Accepted.withinLimits, fun hlimits => ?_⟩
  simp only [discoverMarketCatalog, except_bind_eq_ok, pure, Except.pure, Except.ok.injEq] at h
  obtain ⟨_, -, rfl⟩ := h
  obtain ⟨hdexes, hdexErrors⟩ := discoverDexes_readable transport scope
  have hbuilders : ∀ dex ∈ builderDexes scope (discoverDexes transport scope).1,
      Named dex := by
    obtain ⟨dexes, hsame, -⟩ := discoverDexes_numbered transport scope
    intro dex hmem
    rw [hsame] at hmem hdexes
    exact hdexes dex (List.mem_cons_of_mem _ ((builderDexes_sublist _ _ _).subset hmem))
  have hreadable : ∀ settled ∈ settledSources transport scope
      (builderDexes scope (discoverDexes transport scope).1), Readable settled := by
    intro settled hmem
    obtain ⟨entry, hentry, rfl⟩ := List.mem_map.mp hmem
    have hsource : entry.1 ∈ sources transport.network scope
        (builderDexes scope (discoverDexes transport scope).1) := by
      rw [(List.mem_zipIdx hentry).2.2]
      exact List.getElem_mem _
    obtain ⟨hkind, hname⟩ := sources_named hbuilders entry.1 hsource
    exact settleSource_readable hkind hname _
  refine
    { marketCount := hlimits.marketCount
      markets := fun market hmem => ?_
      quarantinedCount := hlimits.quarantinedCount
      quarantined := fun market hmem => ?_
      errorCount := hlimits.errorCount
      sourceErrors := fun error hmem => ?_ }
  · have hmarket := hlimits.markets market hmem
    rcases List.mem_append.mp hmem with hmem | hmem
    · rcases List.mem_append.mp hmem with hmem | hmem
      · obtain ⟨perp, hperp, rfl⟩ := List.mem_map.mp hmem
        obtain ⟨settled, hsettled, hperp⟩ := List.mem_flatMap.mp hperp
        exact (hreadable settled hsettled).perps perp hperp hmarket
      · obtain ⟨spot, hspot, rfl⟩ := List.mem_map.mp hmem
        obtain ⟨settled, hsettled, hspot⟩ := List.mem_flatMap.mp hspot
        exact (hreadable settled hsettled).spots spot hspot hmarket
    · obtain ⟨outcome, houtcome, rfl⟩ := List.mem_map.mp hmem
      obtain ⟨settled, hsettled, houtcome⟩ := List.mem_flatMap.mp houtcome
      exact (hreadable settled hsettled).outcomes outcome houtcome hmarket
  · have hmarket := hlimits.quarantined market hmem
    rcases List.mem_append.mp hmem with hmem | hmem
    · obtain ⟨settled, hsettled, hmem⟩ := List.mem_flatMap.mp hmem
      exact (hreadable settled hsettled).quarantinedPerps market hmem hmarket
    · obtain ⟨settled, hsettled, hmem⟩ := List.mem_flatMap.mp hmem
      exact (hreadable settled hsettled).quarantinedSpots market hmem hmarket
  · have herror := hlimits.sourceErrors error hmem
    rcases List.mem_append.mp hmem with hmem | hmem
    · exact hdexErrors error hmem herror
    · obtain ⟨settled, hsettled, hmem⟩ := List.mem_flatMap.mp hmem
      exact (hreadable settled hsettled).errors error hmem herror

/-- A discovered catalog, published as a snapshot and read back from its JSON, comes back
as it was published when it is within the limits, and is refused otherwise. -/
theorem discovered_snapshot_read (transport : InfoTransport) (scope : CatalogScope)
    (catalog : MarketCatalog) (h : discoverMarketCatalog transport scope = .ok catalog)
    (snapshot : MarketCatalogSnapshot) (hcatalog : snapshot.catalog = catalog)
    (hgeneration : isSafeInteger snapshot.generation ∧ 1 ≤ snapshot.generation)
    (hpublished : isSafeInteger snapshot.publishedAtMs ∧ 1 ≤ snapshot.publishedAtMs)
    (value : Json) (hvalue : value.stringify = snapshot.toJson.stringify)
    (read : MarketCatalogSnapshot) :
    parseMarketCatalogSnapshot value = .ok read ↔
      read = snapshot.published ∧ catalog.WithinLimits := by
  obtain rfl := Json.stringify_injective hvalue
  rw [parseMarketCatalogSnapshot_toJson, ← accepted_iff_withinLimits h, ← hcatalog]
  constructor
  · rintro ⟨hsame, haccepted⟩
    exact ⟨hsame, haccepted.catalog⟩
  · rintro ⟨hsame, haccepted⟩
    exact ⟨hsame, hgeneration, hpublished, haccepted⟩

/-! ### A symbol after the colon -/

/-- A native market of the coin, one of a builder's DEX, two spot markets and an outcome. -/
def listingTransport (coin : String) : InfoTransport where
  network := .testnet
  perpDexs := .ok (.array [.null, .object [("name", .string "xyz")]])
  answer _ request :=
    match request with
    | .metaAndAssetCtxs none => .ok (perpListing coin)
    | .metaAndAssetCtxs (some dex) => .ok (perpListing (dex ++ ":GOLD"))
    | .outcomeMeta => .ok (.object [("outcomes", .array [.object [("outcome", .number 3),
        ("name", .string "Rain"), ("description", .string ""), ("sideSpecs", .array
          [.object [("name", .string "Yes")], .object [("name", .string "No")]])]])])
    | _ => .ok (spotListing [0] 1)

def firstSnapshot (catalog : MarketCatalog) : MarketCatalogSnapshot where
  network := .mainnet
  generation := 1
  publishedAtMs := 1760000000000
  catalog := catalog

theorem firstSnapshot_numbers (catalog : MarketCatalog) :
    (isSafeInteger (firstSnapshot catalog).generation ∧ 1 ≤ (firstSnapshot catalog).generation) ∧
    isSafeInteger (firstSnapshot catalog).publishedAtMs ∧
      1 ≤ (firstSnapshot catalog).publishedAtMs := by
  simp [firstSnapshot, isSafeInteger]

def readListing (coin : String) : Option (Option (List String)) :=
  (discoverMarketCatalog (listingTransport coin) .complete).toOption.map fun catalog =>
    (parseMarketCatalogSnapshot (firstSnapshot catalog).toJson).toOption.map
      fun read => read.catalog.markets.map fun market => market.base.displaySymbol

example : readListing "BTC" =
    some (some ["BTC", "GOLD", "HYPE", "PURR", "Yes", "No"]) := by decide

theorem discovered_snapshot_read_listing : ∃ catalog,
    discoverMarketCatalog (listingTransport "BTC") .complete = .ok catalog ∧
      firstSnapshot catalog = (firstSnapshot catalog).published ∧
        catalog.WithinLimits := by
  have hread : (discoverMarketCatalog (listingTransport "BTC") .complete).toOption.map
      (fun catalog => (parseMarketCatalogSnapshot (firstSnapshot catalog).toJson).toOption ==
        some (firstSnapshot catalog)) = some true := by
    decide
  cases hcatalog : discoverMarketCatalog (listingTransport "BTC") .complete with
  | error error =>
    rw [hcatalog] at hread
    cases hread
  | ok catalog =>
    rw [hcatalog] at hread
    have hsame := eq_of_beq (Option.some.inj hread)
    have hparsed : parseMarketCatalogSnapshot (firstSnapshot catalog).toJson =
        .ok (firstSnapshot catalog) := by
      cases hparse : parseMarketCatalogSnapshot (firstSnapshot catalog).toJson with
      | error error =>
        rw [hparse] at hsame
        cases hsame
      | ok read =>
        rw [hparse] at hsame
        exact congrArg Except.ok (Option.some.inj hsame)
    exact ⟨catalog, rfl, (discovered_snapshot_read (listingTransport "BTC") .complete
      catalog hcatalog (firstSnapshot catalog) rfl (firstSnapshot_numbers catalog).1
      (firstSnapshot_numbers catalog).2 (firstSnapshot catalog).toJson rfl
      (firstSnapshot catalog)).mp hparsed⟩

/-- A market whose name ends with its first colon has an empty symbol: it is discovered,
and refuses the snapshot. -/
theorem emptySymbol_refused :
    ¬ ∀ (transport : InfoTransport) (scope : CatalogScope) (catalog : MarketCatalog)
      (snapshot : MarketCatalogSnapshot) (value : Json),
      discoverMarketCatalog transport scope = .ok catalog → snapshot.catalog = catalog →
        isSafeInteger snapshot.generation ∧ 1 ≤ snapshot.generation →
          isSafeInteger snapshot.publishedAtMs ∧ 1 ≤ snapshot.publishedAtMs →
            value.stringify = snapshot.toJson.stringify →
              parseMarketCatalogSnapshot value = .ok snapshot.published := by
  intro hclaim
  have hrefused : readListing "xyz:" = some none := by decide
  unfold readListing at hrefused
  cases hcatalog : discoverMarketCatalog (listingTransport "xyz:") .complete with
  | error error =>
    rw [hcatalog] at hrefused
    cases hrefused
  | ok catalog =>
    have hread := hclaim _ _ catalog (firstSnapshot catalog)
      (firstSnapshot catalog).toJson hcatalog rfl (firstSnapshot_numbers catalog).1
      (firstSnapshot_numbers catalog).2 rfl
    rw [hcatalog] at hrefused
    simp only [Except.toOption, Option.map_some, hread] at hrefused
    cases hrefused

end HyperTrader
