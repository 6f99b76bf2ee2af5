import HyperTrader.Library.Entries
import HyperTrader.Markets.Catalog

/-!
# The identities of tradable markets

A perpetual market is numbered by its DEX and its place in the universe of the DEX, a
spot market by the index its entry gives. The canonical ID tells the families and the
numbers apart. The order asset ID does while the numbers are in the ranges that the
three formulas leave to each other; the index of a spot market is whatever the
exchange answers, so two of its entries may share both IDs.
-/

namespace HyperTrader

open Library

structure PerpMarket.Placed (market : PerpMarket) (dexIndex : ℤ) (index : ℕ) :
    Prop where
  dex : market.dexIndex = dexIndex
  place : market.universeIndex = index
  canonicalId : market.canonicalId = Catalog.perpCanonicalId dexIndex index
  orderAssetId : market.orderAssetId = Catalog.perpOrderAssetId dexIndex index

structure SpotMarket.Placed (market : SpotMarket) : Prop where
  nonneg : 0 ≤ market.universeIndex
  canonicalId : market.canonicalId = "spot:" ++ toString market.universeIndex
  orderAssetId : market.orderAssetId = Catalog.spotOrderAssetId market.universeIndex

theorem ite_ok_eq_ok {ε α : Type} {p : Prop} [Decidable p] {a b : α} {e : ε} :
    (if p then Except.ok a else .error e) = .ok b ↔ a = b ∧ p := by
  split
  · simp [*]
  · simp [*]

namespace Catalog

variable {path coin : String} {dex : DexDescriptor} {contexts : List Json} {index : ℕ}
  {market : PerpMarket} {tokens : List TokenIdentity} {payload : Json}
  {quarantined : List QuarantinedMarket} {dex' index' : ℤ}

theorem integer_eq_ok {value : Option Json} {n : ℤ} :
    integer value path = .ok n ↔
      value = some (.number n) ∧ isSafeInteger n ∧ 0 ≤ n := by
  unfold integer
  split
  · rw [ite_ok_eq_ok, Option.some.injEq, Json.number.injEq]
    exact and_congr_right fun h => h ▸ Iff.rfl
  · rename_i hnumber
    exact iff_of_false (fun h => by cases h) fun h => hnumber n h.1

/-! ### One entry -/

theorem perpMarket_placed {asset : Json}
    (h : perpMarket dex contexts asset coin index = .ok (.ok market)) :
    market.Placed dex.index index := by
  simp only [perpMarket, except_bind_eq_ok] at h
  obtain ⟨sizeDecimals, -, isDelisted, -, h⟩ := h
  split at h
  · simp only [except_bind_eq_ok] at h
    obtain ⟨maxLeverage, -, h⟩ := h
    split at h
    · cases h
    · simp only [except_bind_eq_ok, pure, Except.pure, Except.ok.injEq] at h
      obtain ⟨context, -, onlyIsolated, -, marginMode, -, marginTableId, -, rfl⟩ := h
      exact ⟨rfl, rfl, rfl, rfl⟩
  · cases h
  · cases h

theorem perpEntry_placed {rawAsset : Json}
    (h : perpEntry dex contexts rawAsset index = .ok market) : market.Placed dex.index index := by
  unfold perpEntry at h
  split at h
  · cases h
  · split at h
    · cases h
    · rename_i entry hentry
      subst h
      exact perpMarket_placed hentry

theorem spotMarket_placed {source : Json} {universeIndex : ℤ} {market : SpotMarket}
    (hnonneg : 0 ≤ universeIndex)
    (h : spotMarket tokens contexts source universeIndex coin path = .ok market) :
    market.Placed := by
  simp only [spotMarket, except_bind_eq_ok] at h
  obtain ⟨⟨baseToken, quoteToken⟩, -, h⟩ := h
  dsimp only at h
  split at h
  · cases h
  · simp only [except_bind_eq_ok, pure, Except.pure, Except.ok.injEq] at h
    obtain ⟨context, -, isCanonical, -, rfl⟩ := h
    exact ⟨hnonneg, rfl, rfl⟩

theorem spotEntry_placed {rawMarket : Json} {market : SpotMarket}
    (h : spotEntry tokens contexts rawMarket index = .ok market) : market.Placed := by
  unfold spotEntry at h
  dsimp only at h
  split at h
  · cases h
  · rename_i source universeIndex hindex
    split at h
    · cases h
    · split at h
      · cases h
      · rename_i made hmarket
        cases h
        simp only [spotIndex, except_bind_eq_ok, pure, Except.pure, Except.ok.injEq,
          Prod.mk.injEq] at hindex
        obtain ⟨_, -, n, hn, rfl, rfl⟩ := hindex
        exact spotMarket_placed (integer_eq_ok.mp hn).2.2 hmarket

/-! ### One source -/

theorem mem_settle {α : Type} {entries : List (Except QuarantinedMarket α)} {a : α} :
    a ∈ (settle entries).1 ↔ .ok a ∈ entries := by
  simp only [settle, List.mem_filterMap]
  constructor
  · rintro ⟨entry, hmem, hentry⟩
    cases entry with
    | error market => cases hentry
    | ok b =>
      cases hentry
      exact hmem
  · intro hmem
    exact ⟨_, hmem, rfl⟩

theorem parsePerpSource_placed {markets : List PerpMarket}
    (h : parsePerpSource payload dex = .ok (markets, quarantined)) :
    (∀ market ∈ markets, ∃ index : ℕ, market.Placed dex.index index) ∧
      markets.Pairwise fun a b => a.universeIndex ≠ b.universeIndex := by
  simp only [parsePerpSource, except_bind_eq_ok, pure, Except.pure, Except.ok.injEq] at h
  obtain ⟨⟨metadata, rawContexts⟩, -, _, -, listed, -, contexts, -, h⟩ := h
  have hmarkets : markets = (settle (listed.zipIdx.map fun entry =>
      perpEntry dex contexts entry.1 entry.2)).1 := by
    rw [h]
  constructor
  · intro market hmem
    rw [hmarkets, mem_settle, List.mem_map] at hmem
    obtain ⟨entry, -, hentry⟩ := hmem
    exact ⟨entry.2, perpEntry_placed hentry⟩
  · rw [hmarkets, settle, List.pairwise_filterMap, List.pairwise_map]
    refine (pairwise_zipIdx listed 0).imp ?_
    intro entry other hlt a ha b hb hsame
    have hread : ∀ {entry : Except QuarantinedMarket PerpMarket} {a : PerpMarket},
        entry.toOption = some a → entry = .ok a := by
      intro entry a h
      cases entry with
      | error market => cases h
      | ok b => exact congrArg Except.ok (Option.some.inj h)
    have hfirst := (perpEntry_placed (hread ha)).place
    have hsecond := (perpEntry_placed (hread hb)).place
    omega

theorem parseSpotSource_placed {markets : List SpotMarket}
    (h : parseSpotSource payload = .ok (markets, quarantined)) :
    ∀ market ∈ markets, market.Placed := by
  simp only [parseSpotSource, except_bind_eq_ok, pure, Except.pure, Except.ok.injEq] at h
  obtain ⟨⟨metadata, rawContexts⟩, -, _, -, _, -, tokens, -, listed, -, contexts, -, h⟩ := h
  intro market hmem
  have hmarkets : markets = (settle (listed.zipIdx.map fun entry =>
      spotEntry tokens contexts entry.1 entry.2)).1 := by
    rw [h]
  rw [hmarkets, mem_settle, List.mem_map] at hmem
  obtain ⟨entry, -, hentry⟩ := hmem
  exact spotEntry_placed hentry

theorem settleSource_perps (source : CatalogSource) (answer : Except RequestFailure Json) :
    (∀ market ∈ (settleSource source answer).perps, ∃ dex index,
      source.kind = .perp dex ∧ market.Placed dex.index index) ∧
    (settleSource source answer).perps.Pairwise fun a b => a.universeIndex ≠ b.universeIndex := by
  have hnone : ∀ markets : List PerpMarket, markets = [] →
      (∀ market ∈ markets, ∃ dex index, source.kind = .perp dex ∧ market.Placed dex.index index) ∧
      markets.Pairwise fun a b => a.universeIndex ≠ b.universeIndex := by
    rintro markets rfl
    exact ⟨fun _ hmem => (List.not_mem_nil hmem).elim, List.Pairwise.nil⟩
  unfold settleSource
  split
  · exact hnone _ rfl
  · split
    · rename_i dex hkind
      split
      · exact hnone _ rfl
      · rename_i hparsed
        obtain ⟨hplaced, hpairwise⟩ := parsePerpSource_placed hparsed
        refine ⟨fun market hmem => ?_, hpairwise⟩
        obtain ⟨index, hindex⟩ := hplaced market hmem
        exact ⟨dex, index, hkind, hindex⟩
    · split
      · exact hnone _ rfl
      · exact hnone _ rfl
    · split
      · exact hnone _ rfl
      · exact hnone _ rfl

theorem settleSource_spots (source : CatalogSource) (answer : Except RequestFailure Json) :
    ∀ market ∈ (settleSource source answer).spots, market.Placed := by
  unfold settleSource
  split
  · exact fun _ hmem => by cases hmem
  · split
    · split
      · exact fun _ hmem => by cases hmem
      · exact fun _ hmem => by cases hmem
    · split
      · exact fun _ hmem => by cases hmem
      · exact parseSpotSource_placed ‹_›
    · split
      · exact fun _ hmem => by cases hmem
      · exact fun _ hmem => by cases hmem

/-! ### All sources -/

def Numbered (dexes : List DexDescriptor) : Prop :=
  dexes.Pairwise fun a b => a.index < b.index

theorem parseDex_index {value : Json} (h : parseDex value index = .ok dex) : dex.index = index := by
  simp only [parseDex, except_bind_eq_ok, pure, Except.pure, Except.ok.injEq] at h
  obtain ⟨_, -, _, -, _, -, rfl⟩ := h
  rfl

theorem parseDexs_numbered {dexes : List DexDescriptor}
    (h : parseDexs payload = .ok dexes) : Numbered (nativeDex :: dexes) := by
  simp only [parseDexs, except_bind_eq_ok] at h
  obtain ⟨values, -, h⟩ := h
  split at h
  · cases h
    exact List.pairwise_singleton _ _
  · rename_i rest
    have hread := mapM_eq_ok.mp h
    have hindex : ∀ (entry : Json × ℕ) (dex : DexDescriptor),
        parseDex entry.1 entry.2 = .ok dex → dex.index = entry.2 :=
      fun _ _ => parseDex_index
    refine List.pairwise_cons.mpr ⟨?_, ?_⟩
    · intro dex hdex
      obtain ⟨entry, hentry, hparsed⟩ := exists_of_mem_forall₂ hread hdex
      have hplace := (List.mem_zipIdx hentry).1
      have := hindex entry dex hparsed
      simp only [nativeDex]
      omega
    · refine pairwise_of_forall₂ hread (pairwise_zipIdx rest 1) ?_
      intro a b dex dex' ha hb hlt
      rw [hindex a dex ha, hindex b dex' hb]
      exact Int.ofNat_lt.mpr hlt
  · cases h

theorem discoverDexes_numbered (transport : InfoTransport) (scope : CatalogScope) :
    ∃ dexes, (discoverDexes transport scope).1 = nativeDex :: dexes ∧
      Numbered (nativeDex :: dexes) := by
  have hnative : Numbered [nativeDex] := List.pairwise_singleton _ _
  unfold discoverDexes
  split
  · split
    · exact ⟨[], rfl, hnative⟩
    · split
      · exact ⟨[], rfl, hnative⟩
      · exact ⟨_, rfl, parseDexs_numbered ‹_›⟩
  · exact ⟨[], rfl, hnative⟩

theorem builderDexes_sublist (scope : CatalogScope) (dex : DexDescriptor)
    (dexes : List DexDescriptor) : (builderDexes scope (dex :: dexes)).Sublist dexes := by
  unfold builderDexes
  split
  · exact List.Sublist.refl _
  · rename_i offset limit
    rw [Nat.add_comm, List.drop_succ_cons]
    exact (List.take_sublist _ _).trans (List.drop_sublist _ _)
  · exact List.nil_sublist _
  · exact List.nil_sublist _
  · exact List.nil_sublist _

theorem sources_apart (network : HyperliquidNetwork) (scope : CatalogScope)
    {builders : List DexDescriptor} (h : Numbered (nativeDex :: builders)) :
    (sources network scope builders).Pairwise fun a b =>
      ∀ dex other, a.kind = .perp dex → b.kind = .perp other →
        dex.index ≠ other.index := by
  obtain ⟨hnative, hbuilders⟩ := List.pairwise_cons.mp h
  have hpublic : ∀ source ∈ (if scope = .native then [] else
      ⟨"spotMetaAndAssetCtxs", .spot, .spotMetaAndAssetCtxs⟩ ::
        if network = .testnet ∧ scope ≠ .spot then [⟨"outcomeMeta", .outcome, .outcomeMeta⟩]
        else [] : List CatalogSource), ∀ dex, source.kind ≠ .perp dex := by
    intro source hmem dex hkind
    split at hmem
    · cases hmem
    · rcases List.mem_cons.mp hmem with rfl | hmem
      · cases hkind
      · split at hmem
        · obtain rfl := List.mem_singleton.mp hmem
          cases hkind
        · cases hmem
  have hfirst : ∀ source ∈ (if scope = .spot then [] else
      [⟨"metaAndAssetCtxs:native", .perp nativeDex, .metaAndAssetCtxs none⟩] :
        List CatalogSource), source.kind = .perp nativeDex := by
    intro source hmem
    split at hmem
    · cases hmem
    · obtain rfl := List.mem_singleton.mp hmem
      rfl
  refine List.pairwise_append.mpr ⟨List.pairwise_append.mpr ⟨?_, ?_, ?_⟩, ?_, ?_⟩
  · split
    · exact List.Pairwise.nil
    · exact List.pairwise_singleton _ _
  · exact List.pairwise_iff_forall_sublist.mpr fun {a b} hsub dex other hdex =>
      absurd hdex (hpublic a (hsub.subset List.mem_cons_self) dex)
  · exact fun a _ b hb dex other _ hother => absurd hother (hpublic b hb other)
  · refine List.pairwise_map.mpr (hbuilders.imp ?_)
    rintro a b hlt dex other hdex hother
    cases hdex
    cases hother
    exact hlt.ne
  · intro a ha b hb dex other hdex hother
    obtain ⟨builder, hbuilder, rfl⟩ := List.mem_map.mp hb
    cases hother
    rcases List.mem_append.mp ha with ha | ha
    · rw [hfirst a ha] at hdex
      cases hdex
      exact (hnative _ hbuilder).ne
    · exact absurd hdex (hpublic a ha dex)

/-! ### The formulas -/

theorem perpCanonicalId_injective {dex index : ℤ}
    (h : perpCanonicalId dex index = perpCanonicalId dex' index') :
    dex = dex' ∧ index = index' := by
  have hwhole : ∀ (n : ℤ) (rest : List Char),
      ((toString n).toList ++ ':' :: rest).takeWhile Json.isNumberChar =
        (toString n).toList := by
    intro n rest
    rw [List.takeWhile_append_of_pos fun c hc => Json.isNumberChar_of_mem hc]
    simp [show Json.isNumberChar ':' = false by decide]
  have htext : ∀ m n : ℤ, (toString m).toList = (toString n).toList → m = n :=
    fun m n htext => Int.repr_injective (by simpa using String.toList_injective htext)
  have hlists := congrArg String.toList h
  simp only [perpCanonicalId, String.toList_append, List.append_assoc,
    List.append_cancel_left_eq] at hlists
  have hdex : dex = dex' := by
    refine htext dex dex' ?_
    rw [← hwhole dex (toString index).toList, ← hwhole dex' (toString index').toList]
    exact congrArg (List.takeWhile Json.isNumberChar) hlists
  subst hdex
  rw [List.append_cancel_left_eq, List.append_cancel_left_eq] at hlists
  exact ⟨rfl, htext index index' hlists⟩

theorem perpCanonicalId_ne_spot (dex index other : ℤ) :
    perpCanonicalId dex index ≠ "spot:" ++ toString other := by
  intro h
  have hhead := congrArg (fun text : String => text.toList.head?) h
  simp [perpCanonicalId, String.toList_append] at hhead

theorem perpOrderAssetId_injective {dex index : ℤ} (hdex : 0 ≤ dex)
    (hdex' : 0 ≤ dex') (hindex : 0 ≤ index) (hindex' : 0 ≤ index')
    (hrange : index < 10000) (hrange' : index' < 10000)
    (h : perpOrderAssetId dex index = perpOrderAssetId dex' index') :
    dex = dex' ∧ index = index' := by
  unfold perpOrderAssetId at h
  split_ifs at h <;> omega

theorem spotOrderAssetId_of_lt {index : ℤ} (hnonneg : 0 ≤ index)
    (hrange : index < 100000) : spotOrderAssetId index = 10000 + index := by
  have hsafe : isSafeInteger (10000 + index) := by
    unfold isSafeInteger
    omega
  exact addNumber_of_isSafeInteger hsafe

theorem perpOrderAssetId_ne_spot {dex index other : ℤ} (hdex : 0 ≤ dex)
    (hindex : 0 ≤ index) (hother : 0 ≤ other) (hrange : index < 10000)
    (hrange' : other < 100000) : perpOrderAssetId dex index ≠ spotOrderAssetId other := by
  rw [spotOrderAssetId_of_lt hother hrange', perpOrderAssetId]
  split_ifs <;> omega

end Catalog

/-! ### The catalog -/

namespace Market

def SameSpot (a b : Market) : Prop :=
  ∃ first second, a = .spot first ∧ b = .spot second ∧
    first.universeIndex = second.universeIndex

/-- A place beyond those the formula of its family leaves room for: 10,000 in the
universe of a DEX, a spot index of 100,000. -/
def OutOfRange : Market → Prop
  | .perp market => 10000 ≤ market.universeIndex
  | .spot market => 100000 ≤ market.universeIndex
  | .outcome _ => False

/-- Two markets that share an ID only as their entries share an index, or a place is
out of range. -/
structure Apart (a b : Market) : Prop where
  canonicalId : a.base.canonicalId = b.base.canonicalId → a.SameSpot b
  orderAssetId : a.base.orderAssetId = b.base.orderAssetId →
    a.SameSpot b ∨ a.OutOfRange ∨ b.OutOfRange

def tradable (market : Market) : Bool :=
  market.base.orderAvailability == .enabled

open Catalog

variable {dex : ℤ} {index : ℕ} {a : PerpMarket} {b : SpotMarket}

theorem outOfRange_perp {market : PerpMarket}
    (h : market.Placed dex index) (hrange : ¬ (index : ℤ) < 10000) : OutOfRange (.perp market) := by
  rw [OutOfRange, h.place]
  exact not_lt.mp hrange

theorem Apart.perps {b : PerpMarket} {dex' : ℤ} {index' : ℕ}
    (ha : a.Placed dex index) (hb : b.Placed dex' index') (hdex : 0 ≤ dex)
    (hdex' : 0 ≤ dex') (hne : dex ≠ dex' ∨ index ≠ index') :
    Apart (.perp a) (.perp b) where
  canonicalId h := by
    have hids : a.canonicalId = b.canonicalId := h
    rw [ha.canonicalId, hb.canonicalId] at hids
    obtain ⟨hsame, hindex⟩ := perpCanonicalId_injective hids
    omega
  orderAssetId h := by
    have hids : a.orderAssetId = b.orderAssetId := h
    rw [ha.orderAssetId, hb.orderAssetId] at hids
    by_cases hrange : (index : ℤ) < 10000
    · by_cases hrange' : (index' : ℤ) < 10000
      · obtain ⟨hsame, hindex⟩ := perpOrderAssetId_injective hdex hdex'
          (Int.natCast_nonneg _) (Int.natCast_nonneg _) hrange hrange' hids
        omega
      · exact .inr (.inr (outOfRange_perp hb hrange'))
    · exact .inr (.inl (outOfRange_perp ha hrange))

theorem Apart.perp_spot (ha : a.Placed dex index) (hb : b.Placed) (hdex : 0 ≤ dex) :
    Apart (.perp a) (.spot b) where
  canonicalId h := by
    have hids : a.canonicalId = b.canonicalId := h
    rw [ha.canonicalId, hb.canonicalId] at hids
    exact absurd hids (perpCanonicalId_ne_spot dex index b.universeIndex)
  orderAssetId h := by
    have hids : a.orderAssetId = b.orderAssetId := h
    rw [ha.orderAssetId, hb.orderAssetId] at hids
    by_cases hrange : (index : ℤ) < 10000
    · by_cases hrange' : b.universeIndex < 100000
      · exact absurd hids (perpOrderAssetId_ne_spot hdex (Int.natCast_nonneg _)
          hb.nonneg hrange hrange')
      · exact .inr (.inr (not_lt.mp hrange'))
    · exact .inr (.inl (outOfRange_perp ha hrange))

theorem Apart.spots {a : SpotMarket} (ha : a.Placed) (hb : b.Placed) :
    Apart (.spot a) (.spot b) where
  canonicalId h := by
    have hids : a.canonicalId = b.canonicalId := h
    rw [ha.canonicalId, hb.canonicalId] at hids
    have htext := congrArg String.toList hids
    rw [String.toList_append, String.toList_append, List.append_cancel_left_eq] at htext
    exact ⟨a, b, rfl, rfl,
      Int.repr_injective (by simpa using String.toList_injective htext)⟩
  orderAssetId h := by
    have hids : a.orderAssetId = b.orderAssetId := h
    rw [ha.orderAssetId, hb.orderAssetId] at hids
    by_cases hrange : a.universeIndex < 100000
    · by_cases hrange' : b.universeIndex < 100000
      · rw [spotOrderAssetId_of_lt ha.nonneg hrange,
          spotOrderAssetId_of_lt hb.nonneg hrange'] at hids
        exact .inl ⟨a, b, rfl, rfl, by omega⟩
      · exact .inr (.inr (not_lt.mp hrange'))
    · exact .inr (.inl (not_lt.mp hrange))

end Market

open Catalog

section

variable (transport : InfoTransport) (scope : CatalogScope)
  {builders : List DexDescriptor}

theorem sources_nonneg (network : HyperliquidNetwork) (h : Numbered (nativeDex :: builders)) :
    ∀ source ∈ sources network scope builders, ∀ dex, source.kind = .perp dex →
      0 ≤ dex.index := by
  obtain ⟨hnative, -⟩ := List.pairwise_cons.mp h
  intro source hmem dex hkind
  rcases List.mem_append.mp hmem with hmem | hmem
  · rcases List.mem_append.mp hmem with hmem | hmem
    · split at hmem
      · cases hmem
      · obtain rfl := List.mem_singleton.mp hmem
        cases hkind
        exact le_rfl
    · split at hmem
      · cases hmem
      · rcases List.mem_cons.mp hmem with rfl | hmem
        · cases hkind
        · split at hmem
          · obtain rfl := List.mem_singleton.mp hmem
            cases hkind
          · cases hmem
  · obtain ⟨builder, hbuilder, rfl⟩ := List.mem_map.mp hmem
    cases hkind
    exact (hnative _ hbuilder).le

def settledSources (builders : List DexDescriptor) : List SettledSource :=
  (sources transport.network scope builders).zipIdx.map fun entry =>
    settleSource entry.1 (transport.answer entry.2 entry.1.request)

theorem settled_perps (h : Numbered (nativeDex :: builders)) :
    (∀ market ∈ (settledSources transport scope builders).flatMap SettledSource.perps,
      ∃ dex index, 0 ≤ dex ∧ market.Placed dex index) ∧
    ((settledSources transport scope builders).flatMap SettledSource.perps).Pairwise
      fun a b => Market.Apart (.perp a) (.perp b) := by
  have hplaced : ∀ entry ∈ (sources transport.network scope builders).zipIdx,
      ∀ market ∈ (settleSource entry.1 (transport.answer entry.2 entry.1.request)).perps,
      ∃ dex index, entry.1.kind = .perp dex ∧ 0 ≤ dex.index ∧
        market.Placed dex.index index := by
    intro entry hentry market hmem
    obtain ⟨dex, index, hkind, hplace⟩ := (settleSource_perps _ _).1 market hmem
    have hsource : entry.1 ∈ sources transport.network scope builders := by
      rw [(List.mem_zipIdx hentry).2.2]
      exact List.getElem_mem _
    exact ⟨dex, index, hkind,
      sources_nonneg scope transport.network h entry.1 hsource dex hkind, hplace⟩
  constructor
  · intro market hmem
    obtain ⟨settled, hsettled, hmem⟩ := List.mem_flatMap.mp hmem
    obtain ⟨entry, hentry, rfl⟩ := List.mem_map.mp hsettled
    obtain ⟨dex, index, -, hnonneg, hplace⟩ := hplaced entry hentry market hmem
    exact ⟨dex.index, index, hnonneg, hplace⟩
  · rw [List.pairwise_flatMap]
    constructor
    · intro settled hsettled
      obtain ⟨entry, hentry, rfl⟩ := List.mem_map.mp hsettled
      refine (settleSource_perps _ _).2.imp_of_mem ?_
      intro a b ha hb hne
      obtain ⟨dex, index, -, hnonneg, hplace⟩ := hplaced entry hentry a ha
      obtain ⟨dex', index', -, hnonneg', hplace'⟩ := hplaced entry hentry b hb
      refine Market.Apart.perps hplace hplace' hnonneg hnonneg' (.inr ?_)
      rintro rfl
      exact hne (hplace.place.trans hplace'.place.symm)
    · have happart : (sources transport.network scope builders).zipIdx.Pairwise
          fun a b => ∀ dex other, a.1.kind = .perp dex → b.1.kind = .perp other →
            dex.index ≠ other.index := by
        have hfirst := sources_apart transport.network scope h
        rw [← List.zipIdx_map_fst 0 (sources transport.network scope builders)] at hfirst
        exact List.pairwise_map.mp hfirst
      refine List.pairwise_map.mpr (happart.imp_of_mem ?_)
      intro entry other hentry hother hne a ha b hb
      obtain ⟨dex, index, hkind, hnonneg, hplace⟩ := hplaced entry hentry a ha
      obtain ⟨dex', index', hkind', hnonneg', hplace'⟩ := hplaced other hother b hb
      exact Market.Apart.perps hplace hplace' hnonneg hnonneg'
        (.inl (hne dex dex' hkind hkind'))

theorem settled_spots : ∀ market ∈
    (settledSources transport scope builders).flatMap SettledSource.spots,
      market.Placed := by
  intro market hmem
  obtain ⟨settled, hsettled, hmem⟩ := List.mem_flatMap.mp hmem
  obtain ⟨entry, -, rfl⟩ := List.mem_map.mp hsettled
  exact settleSource_spots _ _ market hmem

theorem parseOutcomeSource_browseOnly {payload : Json} {markets : List OutcomeMarket}
    (h : parseOutcomeSource payload = .ok markets) :
    ∀ market ∈ markets, market.orderAvailability = .browseOnly := by
  have hside : ∀ {outcomeId : ℤ} {outcomeName description path : String}
      {rawSide : Json} {side : Fin 2} {market : OutcomeMarket},
      outcomeSide outcomeId outcomeName description path rawSide side = .ok market →
        market.orderAvailability = .browseOnly := by
    intro outcomeId outcomeName description path rawSide side market hmade
    simp only [outcomeSide, except_bind_eq_ok, pure, Except.pure, Except.ok.injEq] at hmade
    obtain ⟨_, -, _, -, rfl⟩ := hmade
    rfl
  simp only [parseOutcomeSource, except_bind_eq_ok, pure, Except.pure, Except.ok.injEq] at h
  obtain ⟨_, -, outcomes, -, sides, hread, rfl⟩ := h
  intro market hmem
  obtain ⟨pair, hpair, hmem⟩ := List.mem_flatten.mp hmem
  obtain ⟨entry, -, hentry⟩ := exists_of_mem_forall₂ (mapM_eq_ok.mp hread) hpair
  simp only [parseOutcome, except_bind_eq_ok] at hentry
  obtain ⟨_, -, outcomeId, -, outcomeName, -, description, -, listed, -, hentry⟩ := hentry
  split at hentry
  · simp only [except_bind_eq_ok, pure, Except.pure, Except.ok.injEq] at hentry
    obtain ⟨first, hfirst, second, hsecond, rfl⟩ := hentry
    rcases List.mem_cons.mp hmem with rfl | hmem
    · exact hside hfirst
    · obtain rfl := List.mem_singleton.mp hmem
      exact hside hsecond
  · cases hentry

theorem settled_outcomes : ∀ market ∈
    (settledSources transport scope builders).flatMap SettledSource.outcomes,
      market.orderAvailability = .browseOnly := by
  intro market hmem
  obtain ⟨settled, hsettled, hmem⟩ := List.mem_flatMap.mp hmem
  obtain ⟨entry, -, rfl⟩ := List.mem_map.mp hsettled
  unfold settleSource at hmem
  split at hmem
  · cases hmem
  · split at hmem
    · split at hmem
      · cases hmem
      · cases hmem
    · split at hmem
      · cases hmem
      · cases hmem
    · split at hmem
      · cases hmem
      · exact parseOutcomeSource_browseOnly ‹_› market hmem

end

/-- In every catalog that is discovered, whatever the exchange answers, two tradable
markets share their canonical ID only if they are spot markets whose entries give one
index, and their order asset ID only then or where a place is out of the range of its
family. -/
theorem tradable_markets_apart (transport : InfoTransport) (scope : CatalogScope)
    (catalog : MarketCatalog) (h : discoverMarketCatalog transport scope = .ok catalog) :
    (catalog.markets.filter Market.tradable).Pairwise Market.Apart := by
  simp only [discoverMarketCatalog, except_bind_eq_ok, pure, Except.pure, Except.ok.injEq] at h
  obtain ⟨_, -, rfl⟩ := h
  obtain ⟨dexes, hdexes, hnumbered⟩ := discoverDexes_numbered transport scope
  have hbuilders : Numbered (nativeDex ::
      builderDexes scope (discoverDexes transport scope).1) := by
    rw [hdexes]
    exact List.Pairwise.sublist ((builderDexes_sublist scope _ _).cons_cons _) hnumbered
  obtain ⟨hplaced, hperps⟩ := settled_perps transport scope hbuilders
  have hspots : ∀ market ∈ (settledSources transport scope
      (builderDexes scope (discoverDexes transport scope).1)).flatMap SettledSource.spots,
      market.Placed := settled_spots transport scope
  have houtcomes : ∀ market ∈ (settledSources transport scope
      (builderDexes scope (discoverDexes transport scope).1)).flatMap
        SettledSource.outcomes, market.orderAvailability = .browseOnly :=
    settled_outcomes transport scope
  change (List.filter Market.tradable
    (((settledSources transport scope _).flatMap SettledSource.perps).map .perp ++
      ((settledSources transport scope _).flatMap SettledSource.spots).map .spot ++
      ((settledSources transport scope _).flatMap SettledSource.outcomes).map .outcome)).Pairwise _
  have hnone : (((settledSources transport scope
      (builderDexes scope (discoverDexes transport scope).1)).flatMap
        SettledSource.outcomes).map Market.outcome).filter Market.tradable = [] := by
    rw [List.filter_eq_nil_iff]
    intro market hmem
    obtain ⟨outcome, houtcome, rfl⟩ := List.mem_map.mp hmem
    simp [Market.tradable, Market.base, houtcomes outcome houtcome]
  rw [List.filter_append, hnone, List.append_nil]
  refine List.Pairwise.filter _ (List.pairwise_append.mpr ⟨?_, ?_, ?_⟩)
  · exact List.pairwise_map.mpr hperps
  · refine List.pairwise_map.mpr (List.pairwise_iff_forall_sublist.mpr ?_)
    intro a b hsub
    exact Market.Apart.spots (hspots a (hsub.subset List.mem_cons_self))
      (hspots b (hsub.subset (List.mem_cons_of_mem _ List.mem_cons_self)))
  · intro a ha b hb
    obtain ⟨perp, hperp, rfl⟩ := List.mem_map.mp ha
    obtain ⟨spot, hspot, rfl⟩ := List.mem_map.mp hb
    obtain ⟨dex, index, hdex, hplace⟩ := hplaced perp hperp
    exact Market.Apart.perp_spot hplace (hspots spot hspot) hdex

/-! ### A spot universe that repeats an index -/

def sampleToken (index : ℤ) (name : String) : Json :=
  .object [("index", .number index), ("tokenId", .string name), ("name", .string name),
    ("szDecimals", .number 2), ("weiDecimals", .number 8)]

def perpListing (coin : String) : Json :=
  .array [.object [("universe", .array
      [.object [("name", .string coin), ("szDecimals", .number 2), ("maxLeverage", .number 40)]])],
    .array [.object [("markPx", .string "97.5")]]]

/-- The tokens, and the given indexes of markets that sell HYPE and one that sells PURR. -/
def spotListing (hype : List ℤ) (purr : ℤ) : Json :=
  .array
    [.object [("tokens", .array [sampleToken 0 "USDC", sampleToken 1 "HYPE", sampleToken 2 "PURR"]),
        ("universe", .array ((hype.map fun index => .object [("index", .number index),
            ("name", .string "@0"), ("tokens", .array [.number 1, .number 0])]) ++
          [.object [("index", .number purr), ("name", .string "PURR/USDC"),
            ("tokens", .array [.number 2, .number 0])]]))],
      .array [.object [], .object []]]

def repeatedTransport : InfoTransport where
  network := .mainnet
  perpDexs := .ok (.array [.null])
  answer _ request :=
    match request with
    | .metaAndAssetCtxs _ => .ok (perpListing "BTC")
    | _ => .ok (spotListing [0, 0] 1)

theorem discover_repeated : ∃ catalog,
    discoverMarketCatalog repeatedTransport .core = .ok catalog ∧
      (catalog.markets.filter Market.tradable).map
        (fun market => market.base.orderAssetId) = [0, 10000, 10000, 10001] := by
  have hids : (discoverMarketCatalog repeatedTransport .core).toOption.map
      (fun catalog => (catalog.markets.filter Market.tradable).map
        fun market => market.base.orderAssetId) = some [0, 10000, 10000, 10001] := by
    decide
  cases hcatalog : discoverMarketCatalog repeatedTransport .core with
  | error error =>
    rw [hcatalog] at hids
    cases hids
  | ok catalog =>
    rw [hcatalog] at hids
    exact ⟨catalog, rfl, Option.some.inj hids⟩

theorem tradable_markets_apart_repeated : ∃ catalog,
    discoverMarketCatalog repeatedTransport .core = .ok catalog ∧
      (catalog.markets.filter Market.tradable).Pairwise Market.Apart := by
  obtain ⟨catalog, hcatalog, -⟩ := discover_repeated
  exact ⟨catalog, hcatalog, tradable_markets_apart repeatedTransport .core catalog hcatalog⟩

/-- A spot index that the exchange repeats gives two markets one order asset. -/
theorem repeatedSpot_not_apart :
    ¬ ∀ (transport : InfoTransport) (scope : CatalogScope) (catalog : MarketCatalog),
      discoverMarketCatalog transport scope = .ok catalog →
        ((catalog.markets.filter Market.tradable).map fun market => market.base.canonicalId).Nodup ∧
          ((catalog.markets.filter Market.tradable).map
            fun market => market.base.orderAssetId).Nodup := by
  intro hclaim
  obtain ⟨catalog, hcatalog, hids⟩ := discover_repeated
  have hnodup := (hclaim repeatedTransport .core catalog hcatalog).2
  rw [hids] at hnodup
  exact absurd hnodup (by decide)

end HyperTrader
