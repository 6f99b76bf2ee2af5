import HyperTrader.Library.Utf16
import HyperTrader.Markets.Summary
import Mathlib.Data.Prod.Lex

/-!
# Following the pages of the summaries

`compareSummaries` compares keys in a linear order: the metric, greatest first and
missing last, then the label, then the ID. So every request sorts the same summaries the
same way, and the offsets of the cursors cut one list.
-/

namespace HyperTrader

open Library

def metricRank (market : MarketSummary) : MarketSummarySort → WithTop Doubleᵒᵈ
  | .symbol => ⊤
  | .metric by_ => (metric market by_).elim ⊤ fun value => ↑(OrderDual.toDual value)

def sortKey (unicode : UnicodeText) (sort : MarketSummarySort) (market : MarketSummary) :
    WithTop Doubleᵒᵈ ×ₗ (List ℕ ×ₗ List ℕ) :=
  toLex (metricRank market sort, toLex
    (utf16 (normalize unicode market.label), utf16 market.canonicalId))

variable {left right : String} {offset : ℕ}

theorem compareText_eq_eq : compareText left right = .eq ↔ left = right := by
  unfold compareText
  split
  · simp [*]
  · split <;> simp [*]

theorem compareText_eq_lt : compareText left right = .lt ↔ utf16 left < utf16 right := by
  unfold compareText
  split
  · rename_i h
    rw [h]
    simp
  · split <;> simp [*]

theorem compareLabels_isLE (unicode : UnicodeText) (left right : MarketSummary) :
    (compareLabels unicode left right).isLE = true ↔
      toLex (utf16 (normalize unicode left.label), utf16 left.canonicalId) ≤
        toLex (utf16 (normalize unicode right.label), utf16 right.canonicalId) := by
  rw [Prod.Lex.toLex_le_toLex]
  have hle : ∀ a b : String, (compareText a b).isLE = true ↔ utf16 a ≤ utf16 b := by
    intro a b
    rw [le_iff_lt_or_eq, ← compareText_eq_lt, utf16_injective.eq_iff, ← compareText_eq_eq]
    cases compareText a b <;> simp [Ordering.isLE]
  unfold compareLabels
  cases horder : compareText (normalize unicode left.label)
      (normalize unicode right.label) with
  | eq =>
    have hsame := compareText_eq_eq.mp horder
    simp [hsame, hle]
  | lt =>
    have hlt := compareText_eq_lt.mp horder
    simp [Ordering.isLE, hlt]
  | gt =>
    have hne : normalize unicode left.label ≠ normalize unicode right.label := by
      intro h
      rw [compareText_eq_eq.mpr h] at horder
      cases horder
    have hnlt : ¬ utf16 (normalize unicode left.label) <
        utf16 (normalize unicode right.label) := by
      intro h
      rw [compareText_eq_lt.mpr h] at horder
      cases horder
    have hunits := utf16_injective.ne hne
    simp [Ordering.isLE, hnlt, hunits]

theorem compareSummaries_isLE (unicode : UnicodeText) (sort : MarketSummarySort)
    (left right : MarketSummary) :
    (compareSummaries unicode sort left right).isLE = true ↔
      sortKey unicode sort left ≤ sortKey unicode sort right := by
  unfold sortKey
  rw [Prod.Lex.toLex_le_toLex, ← compareLabels_isLE]
  cases sort with
  | symbol => simp [compareSummaries, metricRank]
  | metric by_ =>
    simp only [compareSummaries, metricRank]
    cases metric left by_ with
    | none =>
      cases metric right by_ with
      | none => simp
      | some rightMetric => simp [Ordering.isLE]
    | some leftMetric =>
      cases metric right by_ with
      | none => simp [Ordering.isLE]
      | some rightMetric =>
        simp only [Option.elim_some, WithTop.coe_lt_coe, WithTop.coe_inj,
          OrderDual.toDual_lt_toDual, OrderDual.toDual_inj]
        by_cases hsame : leftMetric = rightMetric
        · simp [hsame]
        · by_cases hlt : rightMetric < leftMetric
          · simp [hsame, hlt, Ordering.isLE]
          · simp [hsame, hlt, Ordering.isLE]

theorem selectedSummaries_perm (unicode : UnicodeText) (markets : List Market)
    (query : MarketSummaryQuery) :
    (selectedSummaries unicode markets query).Perm
      ((markets.map marketSummaryFromMarket).filter (selects unicode query)) :=
  List.mergeSort_perm _ _

theorem selectedSummaries_ordered (unicode : UnicodeText) (markets : List Market)
    (query : MarketSummaryQuery) :
    (selectedSummaries unicode markets query).Pairwise fun left right =>
      (compareSummaries unicode query.sort left right).isLE = true := by
  refine List.pairwise_mergeSort ?_ ?_ _
  · intro a b c hab hbc
    rw [compareSummaries_isLE] at hab hbc ⊢
    exact hab.trans hbc
  · intro a b
    rw [Bool.or_eq_true, compareSummaries_isLE, compareSummaries_isLE]
    exact le_total _ _

theorem readCursor_digits {generation offset : List Char}
    (hgeneration : isWholePart generation = true) (hzero : generation ≠ ['0'])
    (hoffset : isWholePart offset = true) :
    readCursor (String.ofList ('g' :: (generation ++ 'o' :: offset))) =
      some (digitsValue generation, digitsValue offset) := by
  have hdigits : ∀ c ∈ generation, c.isDigit = true :=
    ((isWholePart_iff.mp hgeneration).2.1)
  have hwhole : (generation ++ 'o' :: offset).takeWhile Char.isDigit = generation := by
    rw [List.takeWhile_append_of_pos hdigits]
    simp [show Char.isDigit 'o' = false by decide]
  simp only [readCursor, String.toList_ofList, hwhole, List.drop_left]
  rw [if_pos ⟨hgeneration, hzero, hoffset⟩]

theorem readCursor_marketSummaryCursor {generation : ℕ} (h : 1 ≤ generation) :
    readCursor (marketSummaryCursor generation offset) = some (generation, offset) := by
  have htext : marketSummaryCursor generation offset =
      String.ofList ('g' :: (numberDigits generation ++ 'o' :: numberDigits offset)) := by
    have hgeneration : toString (generation : ℤ) = generation.repr := rfl
    apply String.toList_injective
    simp [marketSummaryCursor, numberDigits, String.toList_append, hgeneration]
  have hzero : numberDigits generation ≠ ['0'] := by
    intro hdigits
    have hvalue := congrArg digitsValue hdigits
    rw [digitsValue_numberDigits] at hvalue
    have hnone : digitsValue ['0'] = 0 := by decide
    omega
  rw [htext, readCursor_digits (isWholePart_numberDigits _) hzero
    (isWholePart_numberDigits _), digitsValue_numberDigits, digitsValue_numberDigits]

theorem parseMarketSummaryCursor_marketSummaryCursor {generation : ℤ}
    (hgeneration : isSafeInteger generation ∧ 1 ≤ generation)
    (hoffset : isSafeInteger offset) (expected : ℤ) :
    parseMarketSummaryCursor (some (marketSummaryCursor generation offset)) (some expected) =
      if generation = expected then .ok offset else .error .generationChanged := by
  obtain ⟨n, rfl⟩ := Int.eq_ofNat_of_zero_le (show 0 ≤ generation by omega)
  have hread : readCursor (marketSummaryCursor n offset) = some (n, offset) :=
    readCursor_marketSummaryCursor (by omega)
  simp only [parseMarketSummaryCursor, hread, if_pos (And.intro hgeneration.1 hoffset),
    Option.all_some, beq_iff_eq]

section

variable (unicode : UnicodeText) (published : MarketCatalogSnapshot)
  (query : MarketSummaryQuery)

def pageAt (cursor : Option String) : Except SummaryFailure MarketSummaryPage :=
  createMarketSummaryPage unicode published { query with cursor := cursor }

inductive Follows : Option String → List MarketSummaryPage → Prop
  | last {cursor : Option String} {page : MarketSummaryPage}
      (hpage : pageAt unicode published query cursor = .ok page)
      (hnext : page.nextCursor = none) : Follows cursor [page]
  | next {cursor : Option String} {page : MarketSummaryPage} {next : String}
      {pages : List MarketSummaryPage}
      (hpage : pageAt unicode published query cursor = .ok page)
      (hnext : page.nextCursor = some next) (hpages : Follows (some next) pages) :
      Follows cursor (page :: pages)

def summaryPage (offset : ℕ) : MarketSummaryPage :=
  let summaries := selectedSummaries unicode published.catalog.markets query
  let items := (summaries.drop offset).take query.limit.toNat
  let nextOffset := offset + items.length
  { network := published.network
    generation := published.generation
    publishedAtMs := published.publishedAtMs
    items := items
    total := summaries.length
    nextCursor := if nextOffset < summaries.length then
        some (marketSummaryCursor published.generation nextOffset)
      else none
    quarantinedCount := published.catalog.quarantined.length
    sourceErrorCount := published.catalog.sourceErrors.length }

variable {unicode published query}
  (hlimit : isSafeInteger query.limit ∧ 1 ≤ query.limit ∧ query.limit ≤ maxMarketSummaryPageSize)

include hlimit in
theorem pageAt_eq (cursor : Option String) :
    pageAt unicode published query cursor =
      (parseMarketSummaryCursor cursor (some published.generation)).map
        (summaryPage unicode published query) := by
  unfold pageAt createMarketSummaryPage
  rw [if_pos hlimit]
  cases parseMarketSummaryCursor cursor (some published.generation) with
  | error failure => rfl
  | ok offset => rfl

variable {cursor : Option String} {offset : ℕ} {next : String}

include hlimit in
theorem pageAt_eq_ok {page : MarketSummaryPage}
    (h : pageAt unicode published query cursor = .ok page) :
    ∃ offset, parseMarketSummaryCursor cursor (some published.generation) = .ok offset ∧
      page = summaryPage unicode published query offset := by
  rw [pageAt_eq hlimit] at h
  cases hcursor : parseMarketSummaryCursor cursor (some published.generation) with
  | error failure =>
    rw [hcursor] at h
    cases h
  | ok offset =>
    rw [hcursor] at h
    cases h
    exact ⟨offset, rfl, rfl⟩

theorem summaryPage_next (h : (summaryPage unicode published query offset).nextCursor = some next) :
    offset + (summaryPage unicode published query offset).items.length <
        (selectedSummaries unicode published.catalog.markets query).length ∧
      next = marketSummaryCursor published.generation
        (offset + (summaryPage unicode published query offset).items.length) := by
  unfold summaryPage at h ⊢
  dsimp only at h ⊢
  split at h
  · rename_i hlt
    exact ⟨hlt, (Option.some.inj h).symm⟩
  · cases h

theorem summaryPage_items_append (offset : ℕ) :
    (summaryPage unicode published query offset).items ++
        (selectedSummaries unicode published.catalog.markets query).drop
          (offset + (summaryPage unicode published query offset).items.length) =
      (selectedSummaries unicode published.catalog.markets query).drop offset := by
  unfold summaryPage
  dsimp only
  generalize selectedSummaries unicode published.catalog.markets query = summaries
  rw [← List.drop_drop]
  conv_rhs => rw [← List.take_append_drop query.limit.toNat (summaries.drop offset)]
  rw [List.append_cancel_left_eq, List.length_take]
  by_cases hle : query.limit.toNat ≤ (summaries.drop offset).length
  · rw [Nat.min_eq_left hle]
  · have hall := Nat.le_of_not_le hle
    rw [Nat.min_eq_right hall, List.drop_length, List.drop_eq_nil_of_le hall]

theorem summaryPage_last (h : (summaryPage unicode published query offset).nextCursor = none) :
    (summaryPage unicode published query offset).items =
      (selectedSummaries unicode published.catalog.markets query).drop offset := by
  have hle : (selectedSummaries unicode published.catalog.markets query).length ≤
      offset + (summaryPage unicode published query offset).items.length := by
    unfold summaryPage at h ⊢
    dsimp only at h ⊢
    split at h
    · cases h
    · omega
  rw [← summaryPage_items_append offset, List.drop_eq_nil_of_le hle, List.append_nil]

include hlimit in
theorem length_summaryPage_pos
    (h : offset < (selectedSummaries unicode published.catalog.markets query).length) :
    0 < (summaryPage unicode published query offset).items.length := by
  unfold summaryPage
  dsimp only
  rw [List.length_take, List.length_drop]
  omega

variable (hgeneration : isSafeInteger published.generation ∧ 1 ≤ published.generation)
  (hmarkets : published.catalog.markets.length ≤ 20000)

include hmarkets in
theorem length_selectedSummaries_le :
    (selectedSummaries unicode published.catalog.markets query).length ≤ 20000 := by
  rw [(selectedSummaries_perm unicode _ query).length_eq]
  refine (List.length_filter_le _ _).trans ?_
  rw [List.length_map]
  exact hmarkets

include hgeneration hmarkets in
theorem parse_nextCursor (h : (summaryPage unicode published query offset).nextCursor = some next) :
    parseMarketSummaryCursor (some next) (some published.generation) =
      .ok (offset + (summaryPage unicode published query offset).items.length) := by
  obtain ⟨hlt, rfl⟩ := summaryPage_next h
  have hle : (selectedSummaries unicode published.catalog.markets query).length ≤ 20000 :=
    length_selectedSummaries_le hmarkets
  have hsafe : isSafeInteger ((offset +
      (summaryPage unicode published query offset).items.length : ℕ) : ℤ) := by
    unfold isSafeInteger
    omega
  rw [parseMarketSummaryCursor_marketSummaryCursor hgeneration hsafe, if_pos rfl]

include hlimit hgeneration hmarkets in
theorem exists_follows (n : ℕ) : ∀ (cursor : Option String) (offset : ℕ),
    parseMarketSummaryCursor cursor (some published.generation) = .ok offset →
      (selectedSummaries unicode published.catalog.markets query).length ≤ offset + n →
        ∃ pages, Follows unicode published query cursor pages := by
  induction n with
  | zero =>
    intro cursor offset hcursor hle
    have hpage : pageAt unicode published query cursor =
        .ok (summaryPage unicode published query offset) := by
      rw [pageAt_eq hlimit, hcursor]
      rfl
    refine ⟨_, .last hpage ?_⟩
    cases hnext : (summaryPage unicode published query offset).nextCursor with
    | none => rfl
    | some next =>
      have hlt := (summaryPage_next hnext).1
      omega
  | succ n ih =>
    intro cursor offset hcursor hle
    have hpage : pageAt unicode published query cursor =
        .ok (summaryPage unicode published query offset) := by
      rw [pageAt_eq hlimit, hcursor]
      rfl
    cases hnext : (summaryPage unicode published query offset).nextCursor with
    | none => exact ⟨_, .last hpage hnext⟩
    | some next =>
      have hlt := (summaryPage_next hnext).1
      have hpos := length_summaryPage_pos hlimit
        (show offset < _ from lt_of_le_of_lt (Nat.le_add_right _ _) hlt)
      obtain ⟨pages, hpages⟩ := ih (some next) _
        (parse_nextCursor hgeneration hmarkets hnext) (by omega)
      exact ⟨_, .next hpage hnext hpages⟩

include hlimit hgeneration hmarkets in
theorem follows_items {pages : List MarketSummaryPage}
    (h : Follows unicode published query cursor pages) : ∀ offset,
    parseMarketSummaryCursor cursor (some published.generation) = .ok offset →
      pages.flatMap MarketSummaryPage.items =
          (selectedSummaries unicode published.catalog.markets query).drop offset ∧
        ∀ page ∈ pages, ∃ place, page = summaryPage unicode published query place := by
  induction h with
  | last hpage hnext =>
    intro offset hcursor
    obtain ⟨place, hplace, rfl⟩ := pageAt_eq_ok hlimit hpage
    rw [hplace] at hcursor
    cases hcursor
    constructor
    · rw [List.flatMap_singleton, summaryPage_last hnext]
    · intro page hmem
      exact ⟨offset, List.mem_singleton.mp hmem⟩
  | next hpage hnext hpages ih =>
    intro offset hcursor
    obtain ⟨place, hplace, rfl⟩ := pageAt_eq_ok hlimit hpage
    rw [hplace] at hcursor
    cases hcursor
    obtain ⟨hitems, hall⟩ := ih _ (parse_nextCursor hgeneration hmarkets hnext)
    constructor
    · rw [List.flatMap_cons, hitems, summaryPage_items_append]
    · intro page hmem
      rcases List.mem_cons.mp hmem with rfl | hmem
      · exact ⟨offset, rfl⟩
      · exact hall page hmem

end

end HyperTrader
