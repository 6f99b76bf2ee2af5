import HyperTrader.Portfolio.Rows

/-!
# Which records the rows name

Every nonzero position, open order, fill and funding record has its one row. The joined
texts name the record and its market exactly where no two records, and no two markets, are
joined to one text: several fills of one order in one transaction are not told apart.
-/

namespace HyperTrader

open Library

/-! ### The records and their rows -/

abbrev OnDex (α : Type) := PortfolioPerpSource × α

def PortfolioLiveSource.positions (source : PortfolioLiveSource) : List (OnDex PerpPosition) :=
  source.perpStates.flatMap fun perp => perp.held.map (Prod.mk perp)

def PortfolioLiveSource.openOrders (source : PortfolioLiveSource) :
    List (OnDex FrontendOpenOrder) :=
  source.perpStates.flatMap fun perp => perp.openOrders.map (Prod.mk perp)

def IsVenueMarket (dexName coin : String) : Market → Prop
  | .perp market => market.dexName = dexName ∧ market.coin = coin
  | _ => False

def IsSpotMarket (coin : String) : Market → Prop
  | .spot market => market.coin = coin
  | _ => False

instance (dexName coin : String) : DecidablePred (IsVenueMarket dexName coin) := fun market =>
  match market with
  | .perp market => inferInstanceAs (Decidable (market.dexName = dexName ∧ market.coin = coin))
  | .spot _ => isFalse id
  | .outcome _ => isFalse id

instance (coin : String) : DecidablePred (IsSpotMarket coin) := fun market =>
  match market with
  | .perp _ => isFalse id
  | .spot market => inferInstanceAs (Decidable (market.coin = coin))
  | .outcome _ => isFalse id

/-- The market is the only one of the catalog that is one of these. -/
def OnlyMarket (markets : List Market) (kind : Market → Prop) [DecidablePred kind]
    (market : Market) : Prop :=
  markets.filter (fun market => kind market) = [market]

/-- The row of a position: its identity, and a market that is the only one of its DEX and
coin, if it has one. -/
structure PositionRowOf (markets : List Market) (record : OnDex PerpPosition)
    (row : PortfolioPositionRow) : Prop where
  id : row.id = positionId record.1.dexName record.2.coin
  coin : row.coin = record.2.coin
  size : row.size = record.2.size
  version : row.accountVersion = record.1.state.time
  market : ∀ market, row.market = some market →
    OnlyMarket markets (IsVenueMarket record.1.dexName record.2.coin) (.perp market)

/-- The row of an open order: its identity, and a market that is the only one of its DEX and
coin, or the only spot one of its coin, if it has one. -/
structure OpenOrderRowOf (markets : List Market) (record : OnDex FrontendOpenOrder)
    (row : PortfolioOpenOrderRow) : Prop where
  id : row.id = openOrderId record.1.dexName record.2.oid
  coin : row.coin = record.2.coin
  oid : row.oid = record.2.oid
  size : row.size = record.2.size
  market : ∀ market, row.market = some market →
    OnlyMarket markets (IsVenueMarket record.1.dexName record.2.coin) market ∨
      OnlyMarket markets (IsSpotMarket record.2.coin) market

def NamedApart {α : Type} (name : α → String) (records : List α) : Prop :=
  ∀ a ∈ records, ∀ b ∈ records, a ≠ b → name a ≠ name b

/-- One row for each record, named apart, with the right markets. -/
structure LiveRows (source : PortfolioLiveSource) (live : NormalizedPortfolioLive) : Prop where
  positions : List.Forall₂ (PositionRowOf source.markets) source.positions live.positions
  openOrders : ∃ rows, rows.Perm live.openOrders ∧
    List.Forall₂ (OpenOrderRowOf source.markets) source.openOrders rows
  positionIds : NamedApart (fun record => positionId record.1.dexName record.2.coin)
    source.positions
  openOrderIds : NamedApart (fun record => openOrderId record.1.dexName record.2.oid)
    source.openOrders

/-- One row for each fill and each funding record, named apart. -/
structure HistoryRows (source : PortfolioHistorySource) (history : NormalizedPortfolioHistory) :
    Prop where
  fills : history.fills.Perm source.fills
  funding : history.funding.Perm source.funding
  activity : history.activity.Perm
    (source.fills.map fillActivity ++ source.funding.map fundingActivity)
  fillIds : NamedApart fillId source.fills
  fundingIds : NamedApart portfolioFundingId source.funding
  kinds : ∀ fill ∈ source.fills, ∀ funding ∈ source.funding,
    fillId fill ≠ portfolioFundingId funding

structure PortfolioLiveSource.WellFormed (source : PortfolioLiveSource) : Prop where
  observed : isSafeInteger source.observedAtMs ∧ 0 ≤ source.observedAtMs
  versions : ∀ perp ∈ source.perpStates, isSafeInteger perp.state.time ∧ 0 ≤ perp.state.time
  sizes : ∀ perp ∈ source.perpStates, ∀ position ∈ perp.state.positions,
    (readDecimal position.size).isSome = true

/-! ### The keys -/

/-- The pairs `(a, x)` and `(b, y)` are the same, or one text split at two of its colons. -/
def JoinAlike (a x b y : String) : Prop :=
  a = b ∧ x = y ∨ (∃ middle, b = a ++ ":" ++ middle ∧ x = middle ++ ":" ++ y) ∨
    ∃ middle, a = b ++ ":" ++ middle ∧ y = middle ++ ":" ++ x

theorem joinAlike_of_append {a b x y : String} {rest : List Char}
    (hparts : b.toList = a.toList ++ rest) (htail : ':' :: x.toList = rest ++ ':' :: y.toList) :
    a = b ∧ x = y ∨ ∃ middle, b = a ++ ":" ++ middle ∧ x = middle ++ ":" ++ y := by
  cases rest with
  | nil =>
    rw [List.append_nil] at hparts
    exact .inl ⟨String.toList_inj.mp hparts.symm, String.toList_inj.mp (List.cons.inj htail).2⟩
  | cons c middle =>
    obtain ⟨rfl, hx⟩ := List.cons.inj htail
    refine .inr ⟨String.ofList middle, String.toList_inj.mp ?_, String.toList_inj.mp ?_⟩
    · simp [hparts]
    · simp [hx]

theorem join_eq_iff {a x b y : String} :
    a ++ ":" ++ x = b ++ ":" ++ y ↔ JoinAlike a x b y := by
  constructor
  · intro h
    have hchars : a.toList ++ ':' :: x.toList = b.toList ++ ':' :: y.toList := by
      simpa using congrArg String.toList h
    rcases List.append_eq_append_iff.mp hchars with ⟨rest, hparts, htail⟩ | ⟨rest, hparts, htail⟩
    · exact (joinAlike_of_append hparts htail).imp_right .inl
    · rcases joinAlike_of_append hparts htail with ⟨hparts, htail⟩ | hsplit
      · exact .inl ⟨hparts.symm, htail.symm⟩
      · exact .inr (.inr hsplit)
  · rintro (⟨rfl, rfl⟩ | ⟨middle, rfl, rfl⟩ | ⟨middle, rfl, rfl⟩)
    · rfl
    · simp [String.append_assoc]
    · simp [String.append_assoc]

instance (a x b y : String) : Decidable (JoinAlike a x b y) := decidable_of_iff _ join_eq_iff

def OnlyEntry (markets : List Market) (key : String) (market : Market) : Prop :=
  entriesOf (markets.filterMap orderEntry) key = [market]

def NoEntry (markets : List Market) (key : String) : Prop :=
  entriesOf (markets.filterMap orderEntry) key = []

/-- No two records are joined alike, and the only market that is joined to the text of a
record is of its DEX and coin. -/
structure JoinedApart (live : PortfolioLiveSource) (history : PortfolioHistorySource) : Prop where
  positions : ∀ a ∈ live.positions, ∀ b ∈ live.positions,
    JoinAlike a.1.dexName a.2.coin b.1.dexName b.2.coin → a = b
  openOrders : ∀ a ∈ live.openOrders, ∀ b ∈ live.openOrders,
    a.1.dexName = b.1.dexName → a.2.oid = b.2.oid → a = b
  /-- No order is filled twice in one transaction. -/
  fills : ∀ a ∈ history.fills, ∀ b ∈ history.fills, a.hash = b.hash → a.oid = b.oid → a = b
  funding : ∀ a ∈ history.funding, ∀ b ∈ history.funding, a.time = b.time →
    JoinAlike a.hash a.coin b.hash b.coin → a = b
  perpMarkets : ∀ record ∈ live.positions, ∀ market,
    entriesOf (live.markets.filterMap perpEntry)
      (venueKey record.1.dexName record.2.coin) = [market] →
    market.dexName = record.1.dexName ∧ market.coin = record.2.coin
  venueMarkets : ∀ record ∈ live.openOrders, ∀ market,
    OnlyEntry live.markets (venueKey record.1.dexName record.2.coin) market →
    NoEntry live.markets (spotKey record.2.coin) →
    IsVenueMarket record.1.dexName record.2.coin market
  spotMarkets : ∀ record ∈ live.openOrders, ∀ market,
    OnlyEntry live.markets (spotKey record.2.coin) market →
    NoEntry live.markets (venueKey record.1.dexName record.2.coin) →
    IsSpotMarket record.2.coin market

section Markets

variable {markets : List Market} {dexName coin : String}

theorem entriesOf_orderEntry (markets : List Market) (key : String) :
    entriesOf (markets.filterMap orderEntry) key =
      markets.filter fun market => (orderEntry market).map Prod.fst = some key := by
  have hback : ∀ market made, orderEntry market = some made → id made.2 = market := by
    intro market made h
    cases market with
    | perp market =>
      cases h
      rfl
    | spot market =>
      cases h
      rfl
    | outcome market => cases h
  rw [← entriesOf_filterMap hback, List.map_id]

theorem entriesOf_perpEntry (markets : List Market) (key : String) :
    (entriesOf (markets.filterMap perpEntry) key).map Market.perp =
      markets.filter fun market => (perpEntry market).map Prod.fst = some key := by
  refine entriesOf_filterMap (fun market made h => ?_) markets key
  cases market with
  | perp market =>
    cases h
    rfl
  | spot market => cases h
  | outcome market => cases h

theorem marketFor_eq_some {market : PerpMarket} :
    marketFor (marketLookups markets) dexName coin = some market ↔
      entriesOf (markets.filterMap perpEntry) (venueKey dexName coin) = [market] := by
  unfold marketFor marketLookups
  dsimp only
  rw [indexOf_eq, Option.join_eq_some_iff, onlyOf_eq_some]

variable {market : Market} {key : String}

theorem orderMarketFor_eq_some :
    orderMarketFor (marketLookups markets) dexName coin = some market ↔
      (OnlyEntry markets (venueKey dexName coin) market ∧ NoEntry markets (spotKey coin)) ∨
        OnlyEntry markets (spotKey coin) market ∧ NoEntry markets (venueKey dexName coin) := by
  unfold orderMarketFor marketLookups OnlyEntry NoEntry
  dsimp only
  rw [indexOf_eq, indexOf_eq, ← onlyOf_eq_some, ← onlyOf_eq_some, ← onlyOf_eq_none,
    ← onlyOf_eq_none]
  cases onlyOf (entriesOf (markets.filterMap orderEntry) (venueKey dexName coin)) with
  | none =>
    cases onlyOf (entriesOf (markets.filterMap orderEntry) (spotKey coin)) with
    | none => simp
    | some spot => simp
  | some perp =>
    cases onlyOf (entriesOf (markets.filterMap orderEntry) (spotKey coin)) with
    | none => simp
    | some spot => simp

theorem IsVenueMarket.entry (h : IsVenueMarket dexName coin market) :
    (orderEntry market).map Prod.fst = some (venueKey dexName coin) ∧
      (perpEntry market).map Prod.fst = some (venueKey dexName coin) := by
  cases market with
  | perp market =>
    obtain ⟨rfl, rfl⟩ := h
    exact ⟨rfl, rfl⟩
  | spot market => cases h
  | outcome market => cases h

theorem IsSpotMarket.entry (h : IsSpotMarket coin market) :
    (orderEntry market).map Prod.fst = some (spotKey coin) := by
  cases market with
  | perp market => cases h
  | spot market =>
    cases h
    rfl
  | outcome market => cases h

theorem OnlyEntry.onlyMarket {kind : Market → Prop} [DecidablePred kind]
    (hkind : ∀ other, kind other → (orderEntry other).map Prod.fst = some key)
    (h : OnlyEntry markets key market) (hmarket : kind market) :
    OnlyMarket markets kind market := by
  unfold OnlyEntry at h
  rw [entriesOf_orderEntry] at h
  exact filter_eq_singleton_of_imp (fun other _ => hkind other) hmarket h

theorem OnlyMarket.kind {kind : Market → Prop} [DecidablePred kind]
    (h : OnlyMarket markets kind market) : kind market ∧ market ∈ markets := by
  have hmem : market ∈ markets.filter fun market => kind market := by
    rw [show markets.filter (fun market => kind market) = [market] from h]
    exact List.mem_singleton_self market
  rw [List.mem_filter, decide_eq_true_eq] at hmem
  exact hmem.symm

theorem NoEntry.not_mem (h : NoEntry markets key)
    (hmem : market ∈ markets) : (orderEntry market).map Prod.fst ≠ some key := by
  intro hkey
  unfold NoEntry at h
  rw [entriesOf_orderEntry, List.filter_eq_nil_iff] at h
  exact h market hmem (decide_eq_true hkey)

theorem perpMarket_right_iff :
    (∀ market, marketFor (marketLookups markets) dexName coin = some market →
      OnlyMarket markets (IsVenueMarket dexName coin) (.perp market)) ↔
    ∀ market, entriesOf (markets.filterMap perpEntry) (venueKey dexName coin) = [market] →
      market.dexName = dexName ∧ market.coin = coin := by
  constructor
  · intro h market honly
    exact (h market (marketFor_eq_some.mpr honly)).kind.1
  · intro h market hmarket
    have honly := marketFor_eq_some.mp hmarket
    have hentries := entriesOf_perpEntry markets (venueKey dexName coin)
    rw [honly] at hentries
    have hkind : IsVenueMarket dexName coin (.perp market) := h market honly
    exact filter_eq_singleton_of_imp (fun other _ hother => IsVenueMarket.entry hother |>.2) hkind
      hentries.symm

/-- An order's market is right exactly where the only market under its keys is of its DEX
and coin, or a spot one of its coin. -/
theorem orderMarket_right_iff :
    (∀ market, orderMarketFor (marketLookups markets) dexName coin = some market →
      OnlyMarket markets (IsVenueMarket dexName coin) market ∨
        OnlyMarket markets (IsSpotMarket coin) market) ↔
    (∀ market, OnlyEntry markets (venueKey dexName coin) market →
        NoEntry markets (spotKey coin) → IsVenueMarket dexName coin market) ∧
      ∀ market, OnlyEntry markets (spotKey coin) market →
        NoEntry markets (venueKey dexName coin) → IsSpotMarket coin market := by
  constructor
  · intro h
    constructor
    · intro market honly hno
      rcases h market (orderMarketFor_eq_some.mpr (.inl ⟨honly, hno⟩)) with hright | hspot
      · exact hright.kind.1
      · exact absurd hspot.kind.1.entry (hno.not_mem hspot.kind.2)
    · intro market honly hno
      rcases h market (orderMarketFor_eq_some.mpr (.inr ⟨honly, hno⟩)) with hvenue | hright
      · exact absurd hvenue.kind.1.entry.1 (hno.not_mem hvenue.kind.2)
      · exact hright.kind.1
  · rintro ⟨hvenue, hspot⟩ market hmarket
    rcases orderMarketFor_eq_some.mp hmarket with ⟨honly, hno⟩ | ⟨honly, hno⟩
    · exact .inl (honly.onlyMarket (fun other hother => hother.entry.1) (hvenue market honly hno))
    · exact .inr (honly.onlyMarket (fun other hother => hother.entry) (hspot market honly hno))

end Markets

/-! ### The names -/

theorem join_number_inj {a b : String} {m n : ℤ} :
    a ++ ":" ++ toString m = b ++ ":" ++ toString n ↔ a = b ∧ m = n := by
  have hcolon : ∀ (k : ℤ) (middle text : String), toString k ≠ middle ++ ":" ++ text := by
    intro k middle text h
    have hmem : ':' ∈ (toString k).toList := by simp [h]
    exact absurd (Json.isNumberChar_of_mem hmem) (by decide)
  constructor
  · intro h
    rcases join_eq_iff.mp h with ⟨rfl, hnumber⟩ | ⟨middle, -, hsplit⟩ | ⟨middle, -, hsplit⟩
    · exact ⟨rfl, Int.repr_injective (by simpa using hnumber)⟩
    · exact absurd hsplit (hcolon m middle _)
    · exact absurd hsplit (hcolon n middle _)
  · rintro ⟨rfl, rfl⟩
    rfl

theorem fillId_inj {a b : UserFill} : fillId a = fillId b ↔ a.hash = b.hash ∧ a.oid = b.oid := by
  unfold fillId
  rw [join_number_inj]
  exact and_congr_left fun _ => ⟨fun h => String.append_right_inj _ |>.mp h, fun h => by rw [h]⟩

theorem portfolioFundingId_inj {a b : UserFundingRecord} :
    portfolioFundingId a = portfolioFundingId b ↔
      JoinAlike a.hash a.coin b.hash b.coin ∧ a.time = b.time := by
  unfold portfolioFundingId
  rw [join_number_inj, ← join_eq_iff]
  refine and_congr_left fun _ => ?_
  rw [String.append_assoc, String.append_assoc, String.append_assoc, String.append_assoc,
    String.append_assoc, String.append_assoc]
  exact ⟨fun h => String.append_right_inj _ |>.mp h, fun h => by rw [h]⟩

theorem fillId_ne_portfolioFundingId (fill : UserFill) (funding : UserFundingRecord) :
    fillId fill ≠ portfolioFundingId funding := by
  intro h
  have hchars := congrArg String.toList h
  unfold fillId portfolioFundingId at hchars
  simp only [String.toList_append, List.append_assoc] at hchars
  have hfill : ("fill:" : String).toList = ['f', 'i', 'l', 'l', ':'] := rfl
  have hfunding : ("funding:" : String).toList = ['f', 'u', 'n', 'd', 'i', 'n', 'g', ':'] := rfl
  rw [hfill, hfunding] at hchars
  simp at hchars

theorem namedApart_iff {α : Type} {name : α → String} {records : List α} :
    NamedApart name records ↔
      ∀ a ∈ records, ∀ b ∈ records, name a = name b → a = b := by
  unfold NamedApart
  constructor
  · intro h a ha b hb hname
    by_contra hne
    exact h a ha b hb hne hname
  · intro h a ha b hb hne hname
    exact hne (h a ha b hb hname)

/-! ### The rows of a source -/

variable {source : PortfolioLiveSource} {live : NormalizedPortfolioLive}

structure BuiltPosition (markets : List Market) (record : OnDex PerpPosition)
    (row : PortfolioPositionRow) : Prop where
  id : row.id = positionId record.1.dexName record.2.coin
  coin : row.coin = record.2.coin
  size : row.size = record.2.size
  version : row.accountVersion = record.1.state.time
  market : row.market = marketFor (marketLookups markets) record.1.dexName record.2.coin

structure BuiltOpenOrder (markets : List Market) (record : OnDex FrontendOpenOrder)
    (row : PortfolioOpenOrderRow) : Prop where
  id : row.id = openOrderId record.1.dexName record.2.oid
  coin : row.coin = record.2.coin
  oid : row.oid = record.2.oid
  size : row.size = record.2.size
  market : row.market = orderMarketFor (marketLookups markets) record.1.dexName record.2.coin

variable {perp : PortfolioPerpSource} {position : PerpPosition} {lookups : MarketLookups}

theorem positionRow_built {markets : List Market} {made : PortfolioPositionRow × List String}
    (h : positionRow (marketLookups markets) perp position = .ok made) :
    BuiltPosition markets (perp, position) made.1 := by
  simp only [positionRow, except_bind_eq_ok] at h
  obtain ⟨absoluteSize, -, hresult⟩ := h
  cases hresult
  exact ⟨rfl, rfl, rfl, rfl, rfl⟩

theorem exists_positionRow (hsize : (readDecimal position.size).isSome = true) :
    ∃ made, positionRow lookups perp position = .ok made := by
  obtain ⟨size, hsize⟩ : ∃ size, absoluteDecimal position.size = .ok size := by
    unfold absoluteDecimal
    rw [require_of hsize]
    exact ⟨_, rfl⟩
  unfold positionRow
  simp only [hsize]
  exact ⟨_, rfl⟩

theorem exists_perpRows (hversion : isSafeInteger perp.state.time ∧ 0 ≤ perp.state.time)
    (hsizes : ∀ position ∈ perp.state.positions, (readDecimal position.size).isSome = true) :
    ∃ rows, perpRows lookups perp = .ok rows := by
  obtain ⟨positions, hpositions⟩ : ∃ positions,
      perp.held.mapM (positionRow lookups perp) = .ok positions :=
    exists_mapM_eq_ok fun position hposition =>
      exists_positionRow (hsizes position (List.mem_of_mem_filter hposition))
  unfold perpRows
  rw [require_of hversion, hpositions]
  exact ⟨_, rfl⟩

theorem PortfolioLiveSource.WellFormed.exists_normalized (h : source.WellFormed) :
    ∃ live, normalizePortfolioLiveSnapshot source = .ok live := by
  obtain ⟨rows, hrows⟩ : ∃ rows,
      source.perpStates.mapM (perpRows (marketLookups source.markets)) = .ok rows :=
    exists_mapM_eq_ok fun perp hperp =>
      exists_perpRows (h.versions perp hperp) (h.sizes perp hperp)
  unfold normalizePortfolioLiveSnapshot
  rw [require_of h.observed, hrows]
  exact ⟨_, rfl⟩

theorem perpRows_built {markets : List Market}
    {rows : List PortfolioPositionRow × List PortfolioOpenOrderRow × List String}
    (h : perpRows (marketLookups markets) perp = .ok rows) :
    List.Forall₂ (BuiltPosition markets) (perp.held.map (Prod.mk perp)) rows.1 ∧
      List.Forall₂ (BuiltOpenOrder markets) (perp.openOrders.map (Prod.mk perp)) rows.2.1 := by
  simp only [perpRows, except_bind_eq_ok] at h
  obtain ⟨_, -, positions, hpositions, hresult⟩ := h
  cases hresult
  constructor
  · rw [List.forall₂_map_left_iff, List.forall₂_map_right_iff]
    exact (mapM_eq_ok.mp hpositions).imp fun position made hmade => positionRow_built hmade
  · rw [List.forall₂_map_left_iff, List.forall₂_map_right_iff, List.forall₂_map_right_iff,
      List.forall₂_same]
    intro order horder
    exact ⟨rfl, rfl, rfl, rfl, rfl⟩

theorem normalizePortfolioLiveSnapshot_built
    (h : normalizePortfolioLiveSnapshot source = .ok live) :
    List.Forall₂ (BuiltPosition source.markets) source.positions live.positions ∧
      ∃ rows, rows.Perm live.openOrders ∧
        List.Forall₂ (BuiltOpenOrder source.markets) source.openOrders rows := by
  simp only [normalizePortfolioLiveSnapshot, except_bind_eq_ok] at h
  obtain ⟨_, -, rows, hrows, hresult⟩ := h
  cases hresult
  have hbuilt := (mapM_eq_ok.mp hrows).imp fun perp made hmade => perpRows_built hmade
  refine ⟨List.rel_flatMap hbuilt fun perp made hmade => hmade.1, _,
    (List.mergeSort_perm _ _).symm, ?_⟩
  exact List.rel_flatMap hbuilt fun perp made hmade => hmade.2

theorem positionRows_iff (h : normalizePortfolioLiveSnapshot source = .ok live) :
    List.Forall₂ (PositionRowOf source.markets) source.positions live.positions ↔
      ∀ record ∈ source.positions, ∀ market,
        entriesOf (source.markets.filterMap perpEntry)
          (venueKey record.1.dexName record.2.coin) = [market] →
        market.dexName = record.1.dexName ∧ market.coin = record.2.coin := by
  refine forall₂_iff_of_forall₂ (normalizePortfolioLiveSnapshot_built h).1
    fun record row hbuilt => ?_
  rw [← perpMarket_right_iff, ← hbuilt.market]
  constructor
  · exact fun hrow => hrow.market
  · exact fun hmarket => ⟨hbuilt.id, hbuilt.coin, hbuilt.size, hbuilt.version, hmarket⟩

theorem orderMarket_of_row {record : OnDex FrontendOpenOrder} {row : PortfolioOpenOrderRow}
    {rows : List PortfolioOpenOrderRow}
    (hbuilt : List.Forall₂ (BuiltOpenOrder source.markets) source.openOrders rows)
    (hrow : OpenOrderRowOf source.markets record row) (hmem : row ∈ rows) :
    row.market = orderMarketFor (marketLookups source.markets) record.1.dexName record.2.coin := by
  obtain ⟨other, -, hother⟩ := exists_of_mem_forall₂ hbuilt hmem
  have hid : openOrderId other.1.dexName other.2.oid =
      openOrderId record.1.dexName record.2.oid := hother.id.symm.trans hrow.id
  have hdex : other.1.dexName = record.1.dexName := (join_number_inj.mp hid).1
  have hcoin : other.2.coin = record.2.coin := hother.coin.symm.trans hrow.coin
  rw [hother.market, hdex, hcoin]

theorem openOrderRows_iff (h : normalizePortfolioLiveSnapshot source = .ok live) :
    (∃ rows, rows.Perm live.openOrders ∧
        List.Forall₂ (OpenOrderRowOf source.markets) source.openOrders rows) ↔
      ∀ record ∈ source.openOrders, ∀ market,
        orderMarketFor (marketLookups source.markets) record.1.dexName record.2.coin =
          some market →
        OnlyMarket source.markets (IsVenueMarket record.1.dexName record.2.coin) market ∨
          OnlyMarket source.markets (IsSpotMarket record.2.coin) market := by
  obtain ⟨-, built, hperm, hbuilt⟩ := normalizePortfolioLiveSnapshot_built h
  constructor
  · rintro ⟨rows, hrows, hright⟩ record hrecord market hmarket
    obtain ⟨row, hmem, hrow⟩ := exists_of_mem_forall₂_left hright hrecord
    have hin : row ∈ built := (hperm.mem_iff).mpr ((hrows.mem_iff).mp hmem)
    rw [← orderMarket_of_row hbuilt hrow hin] at hmarket
    exact hrow.market market hmarket
  · intro hmarkets
    refine ⟨built, hperm, (@forall₂_iff_of_forall₂ _ _ _ _ (fun record => ∀ market,
      orderMarketFor (marketLookups source.markets) record.1.dexName record.2.coin = some market →
      OnlyMarket source.markets (IsVenueMarket record.1.dexName record.2.coin) market ∨
        OnlyMarket source.markets (IsSpotMarket record.2.coin) market) _ _ hbuilt
      fun record row hrow => ?_).mpr hmarkets⟩
    rw [← hrow.market]
    constructor
    · exact fun hright => hright.market
    · exact fun hmarket => ⟨hrow.id, hrow.coin, hrow.oid, hrow.size, hmarket⟩

/-- The rows of a live source and of a history name what they are of. -/
def RowsNameRecords (source : PortfolioLiveSource) (history : PortfolioHistorySource) : Prop :=
  (∃ live, normalizePortfolioLiveSnapshot source = .ok live ∧ LiveRows source live) ∧
    HistoryRows history (normalizePortfolioHistorySnapshot history)

/-- **The rows name their records and their markets** exactly where no two are joined to one
text. -/
theorem rows_name_records_iff (hsource : source.WellFormed) (history : PortfolioHistorySource) :
    RowsNameRecords source history ↔ JoinedApart source history := by
  obtain ⟨live, hlive⟩ := hsource.exists_normalized
  have hpositions := positionRows_iff hlive
  have hopenOrders := openOrderRows_iff hlive
  constructor
  · rintro ⟨⟨live', hlive', hrows⟩, hhistory⟩
    rw [hlive] at hlive'
    cases hlive'
    have hmarkets := hopenOrders.mp hrows.openOrders
    refine ⟨fun a ha b hb h => namedApart_iff.mp hrows.positionIds a ha b hb (join_eq_iff.mpr h),
      ?_, ?_, ?_, hpositions.mp hrows.positions,
      fun record hrecord => (orderMarket_right_iff.mp (hmarkets record hrecord)).1,
      fun record hrecord => (orderMarket_right_iff.mp (hmarkets record hrecord)).2⟩
    · intro a ha b hb hdex hoid
      exact namedApart_iff.mp hrows.openOrderIds a ha b hb (join_number_inj.mpr ⟨hdex, hoid⟩)
    · intro a ha b hb hhash hoid
      exact namedApart_iff.mp hhistory.fillIds a ha b hb (fillId_inj.mpr ⟨hhash, hoid⟩)
    · intro a ha b hb htime hjoined
      exact namedApart_iff.mp hhistory.fundingIds a ha b hb
        (portfolioFundingId_inj.mpr ⟨hjoined, htime⟩)
  · intro h
    refine ⟨⟨live, hlive, hpositions.mpr h.perpMarkets, hopenOrders.mpr fun record hrecord =>
      orderMarket_right_iff.mpr ⟨h.venueMarkets record hrecord, h.spotMarkets record hrecord⟩,
      namedApart_iff.mpr fun a ha b hb hid => h.positions a ha b hb (join_eq_iff.mp hid),
      namedApart_iff.mpr ?_⟩, ?_⟩
    · intro a ha b hb hname
      obtain ⟨hdex, hoid⟩ := join_number_inj.mp hname
      exact h.openOrders a ha b hb hdex hoid
    · refine ⟨List.mergeSort_perm _ _, List.mergeSort_perm _ _, List.mergeSort_perm _ _,
        namedApart_iff.mpr ?_, namedApart_iff.mpr ?_,
        fun fill _ funding _ => fillId_ne_portfolioFundingId fill funding⟩
      · intro a ha b hb hname
        obtain ⟨hhash, hoid⟩ := fillId_inj.mp hname
        exact h.fills a ha b hb hhash hoid
      · intro a ha b hb hname
        obtain ⟨hjoined, htime⟩ := portfolioFundingId_inj.mp hname
        exact h.funding a ha b hb htime hjoined

/-! ### An order filled twice in one transaction -/

def emptySource : PortfolioLiveSource where
  markets := []
  perpStates := []
  observedAtMs := 0
  sourceGaps := []

def partialFill (size startPosition : String) : UserFill where
  coin := "BTC"
  side := "B"
  price := "60000"
  size := size
  closedPnl := "0"
  startPosition := startPosition
  fee := "0.1"
  feeToken := "USDC"
  oid := 77
  time := 1000
  hash := "0x01"

def heldMarket (dexName coin : String) (dexIndex : ℤ) : PerpMarket where
  canonicalId := "perp:" ++ toString dexIndex ++ ":0"
  displaySymbol := coin
  coin := coin
  universeIndex := 0
  orderAssetId := if dexIndex = 0 then 0 else 100000 + 10000 * dexIndex
  lifecycle := .active
  orderAvailability := .enabled
  validationReasons := []
  context := ⟨none, none, none, none, some "60000", none, none, none, none, none⟩
  dexIndex := dexIndex
  dexName := dexName
  dexFullName := none
  sizeDecimals := 5
  pricePrecision := ⟨5, 1⟩
  maxLeverage := 40
  onlyIsolated := false
  marginMode := none
  marginTableId := none

def heldPosition (coin size : String) : PerpPosition where
  coin := coin
  size := size
  entryPrice := some "60000"
  liquidationPrice := none
  positionValue := "600"
  returnOnEquity := "0"
  unrealizedPnl := "0"
  maxLeverage := 40
  leverageType := "cross"
  leverageValue := 5

def restingOrder (coin : String) (oid : ℤ) : FrontendOpenOrder where
  coin := coin
  limitPrice := "59000"
  oid := oid
  side := "B"
  size := "0.01"
  timestamp := 1000
  originalSize := "0.01"
  triggerCondition := "N/A"
  isTrigger := false
  triggerPrice := "0"
  isPositionTpsl := false
  reduceOnly := false
  orderType := "Limit"

/-- A position on each of two DEXes, one that is closed, and an order on each. -/
def heldSource : PortfolioLiveSource where
  markets := [.perp (heldMarket "" "BTC" 0), .perp (heldMarket "xyz" "xyz:BTC" 1)]
  perpStates :=
    [⟨"", none, ⟨[heldPosition "BTC" "0.01", heldPosition "ETH" "0"], 1000, "100"⟩,
        [restingOrder "BTC" 5]⟩,
      ⟨"xyz", none, ⟨[heldPosition "xyz:BTC" "-0.02"], 1000, "100"⟩, [restingOrder "xyz:BTC" 5]⟩]
  observedAtMs := 1000
  sourceGaps := []

/-- Two fills of one order, each in its own transaction, and the funding of one hour. -/
def heldHistory : PortfolioHistorySource where
  fills := [partialFill "1" "0", { partialFill "2" "1" with hash := "0x02" }]
  funding := [⟨1000, "0x00", "BTC", "-0.1", "0.01", "0.0000125"⟩]

theorem heldSource_wellFormed : heldSource.WellFormed :=
  ⟨by decide, by decide, by decide⟩

theorem heldSource_joinedApart : JoinedApart heldSource heldHistory := by
  have hperps : ∀ record ∈ heldSource.positions,
      ∀ market ∈ entriesOf (heldSource.markets.filterMap perpEntry)
        (venueKey record.1.dexName record.2.coin),
      market.dexName = record.1.dexName ∧ market.coin = record.2.coin := by
    decide
  have horders : ∀ record ∈ heldSource.openOrders,
      (∀ market ∈ entriesOf (heldSource.markets.filterMap orderEntry)
        (venueKey record.1.dexName record.2.coin),
        IsVenueMarket record.1.dexName record.2.coin market) ∧
      ∀ market ∈ entriesOf (heldSource.markets.filterMap orderEntry) (spotKey record.2.coin),
        IsSpotMarket record.2.coin market := by
    decide
  constructor
  · decide
  · decide
  · decide
  · decide
  · intro record hrecord market honly
    exact hperps record hrecord market (honly ▸ List.mem_singleton_self market)
  · intro record hrecord market honly _
    exact (horders record hrecord).1 market
      (show market ∈ _ by rw [show _ = [market] from honly]; exact List.mem_singleton_self market)
  · intro record hrecord market honly _
    exact (horders record hrecord).2 market
      (show market ∈ _ by rw [show _ = [market] from honly]; exact List.mem_singleton_self market)

/-- The two positions, the two orders and the two fills each have their own row. -/
theorem rows_name_records_iff_held :
    RowsNameRecords heldSource heldHistory ∧ heldSource.positions.length = 2 ∧
      heldSource.openOrders.length = 2 :=
  ⟨(rows_name_records_iff heldSource_wellFormed heldHistory).mpr heldSource_joinedApart,
    by decide, by decide⟩

/-- Two fills of one order in one transaction have one name. -/
theorem fills_not_apart :
    ¬RowsNameRecords emptySource ⟨[partialFill "1" "0", partialFill "2" "1"], []⟩ := by
  rintro ⟨-, hhistory⟩
  exact hhistory.fillIds (partialFill "1" "0") (by decide) (partialFill "2" "1") (by decide)
    (by decide) (by decide)

end HyperTrader
