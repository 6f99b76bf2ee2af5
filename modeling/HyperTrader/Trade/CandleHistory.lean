import HyperTrader.Trade.Candles

/-!
# Chart history without holes

The live candles slide: an update drops the oldest one of a full series, and a snapshot
begins a window before its time. The older pages stay where they were fetched. So the
series that is shown has no hole as long as nothing leaves the live candles while an older
candle is shown, and nothing is missing between the live candles and a page that arrives.
-/

namespace HyperTrader

open Library

namespace TradeCandleData

/-! ### What is claimed, of whom, and when -/

/-- An answer of the exchange to a range: candles of it in their order, and among them every
candle of it that was received before. -/
structure Answers (received : List Candle) (range : ℕ × ℕ) (payload : List Candle) : Prop where
  ordered : payload.Pairwise fun a b => a.openTime < b.openTime
  within : ∀ candle ∈ payload, range.1 ≤ candle.openTime ∧ candle.openTime ≤ range.2
  complete : ∀ candle ∈ received, range.1 ≤ candle.openTime → candle.openTime ≤ range.2 →
    ∃ answered ∈ payload, answered.openTime = candle.openTime

variable {received payload candles live : List Candle} {candle incoming : Candle}
  {capacity openTime now : ℕ}

theorem answers_iff {range : ℕ × ℕ} :
    Answers received range payload ↔
      payload.Pairwise (fun a b => a.openTime < b.openTime) ∧
        (∀ candle ∈ payload, range.1 ≤ candle.openTime ∧ candle.openTime ≤ range.2) ∧
        ∀ candle ∈ received, range.1 ≤ candle.openTime → candle.openTime ≤ range.2 →
          ∃ answered ∈ payload, answered.openTime = candle.openTime :=
  ⟨fun h => ⟨h.ordered, h.within, h.complete⟩, fun h => ⟨h.1, h.2.1, h.2.2⟩⟩

instance (received : List Candle) (range : ℕ × ℕ) (payload : List Candle) :
    Decidable (Answers received range payload) := decidable_of_iff _ answers_iff.symm

def Answered (expected : TradeCandleSeries) (data : TradeCandleData) : CandleEvent → Prop
  | .snapshot now payload =>
    Answers data.received (tradeCandleRange expected.interval now) payload
  | .settled (some payload) => ∀ endTime ∈ data.fetching,
      Answers data.received (tradeCandleRange expected.interval endTime) payload
  | _ => True

instance (expected : TradeCandleSeries) (data : TradeCandleData) :
    (event : CandleEvent) → Decidable (data.Answered expected event)
  | .snapshot now payload => inferInstanceAs
      (Decidable (Answers data.received (tradeCandleRange expected.interval now) payload))
  | .settled (some payload) => inferInstanceAs (Decidable (∀ endTime ∈ data.fetching,
      Answers data.received (tradeCandleRange expected.interval endTime) payload))
  | .settled none | .update _ | .fetchOlder _ => inferInstanceAs (Decidable True)

def liveCandles (data : TradeCandleData) : List Candle := data.live.getD []

def older (data : TradeCandleData) : List Candle := data.pages.flatten

def Has (candles : List Candle) (openTime : ℕ) : Prop :=
  ∃ candle ∈ candles, candle.openTime = openTime

instance (candles : List Candle) (openTime : ℕ) : Decidable (Has candles openTime) := by
  unfold Has
  infer_instance

/-- Every candle received from `low` on is in a page, or not older than the live ones. -/
def Reaches (data : TradeCandleData) (low : ℕ) : Prop :=
  ∀ candle ∈ data.received, low ≤ candle.openTime →
    Has data.older candle.openTime ∨ ∃ live ∈ data.liveCandles, live.openTime ≤ candle.openTime

instance (data : TradeCandleData) (low : ℕ) : Decidable (data.Reaches low) := by
  unfold Reaches
  infer_instance

/-- The capacity drops the update itself: it is older than the candles of a full series. -/
def DropsUpdate (expected : TradeCandleSeries) (data : TradeCandleData) (candle : Candle) : Prop :=
  data.liveCandles.length = tradeChartCandleCapacity expected.interval ∧
    ∀ live ∈ data.liveCandles, candle.openTime < live.openTime

instance (expected : TradeCandleSeries) (data : TradeCandleData) (candle : Candle) :
    Decidable (data.DropsUpdate expected candle) := by
  unfold DropsUpdate
  infer_instance

/-- No candle leaves the live ones while an older one is shown: a snapshot was asked for no
earlier than the newest candle opened, and then begins no later than the live candles; an
update is not older than a candle that is not live, and then does not overflow the live
candles, unless the capacity drops the update itself and it is older than all that is shown.
A page that arrives ends before the live candles, and what was received after its end is in
a page or not older than they are. Nothing is asked of an answer that does not parse, of a
fetch that fails or of an empty page. -/
def Keeps (expected : TradeCandleSeries) (data : TradeCandleData) : CandleEvent → Prop
  | .snapshot now payload => (parseCandles expected payload).isOk = true →
    (∀ candle ∈ data.received, candle.openTime ≤ now) ∧
      (data.older ≠ [] → ∀ candle ∈ data.liveCandles,
        (tradeCandleRange expected.interval now).1 ≤ candle.openTime)
  | .update candle => (parseCandles expected [candle]).isOk = true →
    data.DropsUpdate expected candle ∧ (∀ other ∈ data.older, candle.openTime < other.openTime) ∨
      (∀ other ∈ data.received, candle.openTime < other.openTime →
        Has data.liveCandles other.openTime) ∧
      (data.older ≠ [] →
        (data.liveCandles.filter fun other => other.openTime ≠ candle.openTime).length + 1 ≤
          tradeChartCandleCapacity expected.interval)
  | .settled (some page) => (parseCandles expected page).isOk = true → page ≠ [] →
    ∀ endTime ∈ data.fetching, data.Reaches (endTime + 1) ∧
      ∀ candle ∈ data.liveCandles, endTime < candle.openTime
  | .fetchOlder _ | .settled none => True

instance (expected : TradeCandleSeries) (data : TradeCandleData) :
    (event : CandleEvent) → Decidable (data.Keeps expected event)
  | .snapshot .. | .update _ | .settled (some _) => by
    unfold Keeps
    infer_instance
  | .fetchOlder _ | .settled none => inferInstanceAs (Decidable True)

/-- What is shown is strictly increasing and the latest received of every candle, and no
candle that was received and opens between the first and the last shown is missing. -/
def Unbroken (interval : TradeChartInterval) (data : TradeCandleData) : Prop :=
  ∃ shown, data.combined interval = some (.ok shown) ∧
    shown.Pairwise (fun a b => a.openTime < b.openTime) ∧
    (∀ candle ∈ shown, latest Candle.openTime data.received candle.openTime = some candle) ∧
    ∀ first ∈ shown.head?, ∀ last ∈ shown.getLast?, ∀ candle ∈ data.received,
      first.openTime ≤ candle.openTime → candle.openTime ≤ last.openTime →
        Has shown candle.openTime

variable {expected : TradeCandleSeries} {data : TradeCandleData}

/-! ### The invariant -/

def OfSeries (expected : TradeCandleSeries) (candle : Candle) : Prop :=
  candle.symbol = expected.coin ∧ candle.interval = expected.interval.interval

/-- The live candles miss none that is not older than they are, the pages reach up to them,
and both hold the latest of what they show. -/
structure Whole (expected : TradeCandleSeries) (data : TradeCandleData) : Prop where
  live : data.live.isSome = true
  ofSeries : ∀ candle ∈ data.received, OfSeries expected candle
  ordered : data.liveCandles.Pairwise fun a b => a.openTime < b.openTime
  liveLatest : ∀ candle ∈ data.liveCandles,
    latest Candle.openTime data.received candle.openTime = some candle
  liveWhole : ∀ candle ∈ data.received,
    (∃ live ∈ data.liveCandles, live.openTime ≤ candle.openTime) →
      Has data.liveCandles candle.openTime
  olderReceived : ∀ candle ∈ data.older, candle ∈ data.received
  olderLatest : ∀ candle ∈ data.older, ¬ Has data.liveCandles candle.openTime →
    latest Candle.openTime data.received candle.openTime = some candle
  oldest : ∀ page ∈ data.pages.getLast?, ∀ first ∈ page.head?,
    ∀ candle ∈ data.older, first.openTime ≤ candle.openTime
  reaches : data.older ≠ [] →
    ∃ low, (∀ candle ∈ data.older, low ≤ candle.openTime) ∧ data.Reaches low
  fetching : ∀ endTime ∈ data.fetching, ∀ candle ∈ data.older, endTime < candle.openTime

/-! ### What the parsers and the merges give -/

theorem parseCandle_eq_ok {parsed : Candle} {index : ℕ}
    (h : parseCandle expected candle index = .ok parsed) :
    parsed = candle ∧ OfSeries expected candle := by
  unfold parseCandle at h
  dsimp only at h
  split at h
  · cases h
  · split at h
    · cases h
    · rename_i hsymbol
      split at h
      · cases h
      · rename_i hinterval
        cases h
        exact ⟨rfl, not_not.mp hsymbol, not_not.mp hinterval⟩

theorem parseCandles_eq_ok {parsed : List Candle} (h : parseCandles expected payload = .ok parsed) :
    parsed = payload ∧ ∀ candle ∈ payload, OfSeries expected candle := by
  have hread := (mapM_eq_ok.mp h).imp fun _ _ => parseCandle_eq_ok
  have hpayload : payload.zipIdx.map Prod.fst = payload := List.zipIdx_map_fst 0 payload
  constructor
  · have heq : List.Forall₂ Eq (payload.zipIdx.map Prod.fst) parsed :=
      List.forall₂_map_left_iff.mpr (hread.imp fun _ _ hentry => hentry.1.symm)
    rw [hpayload, List.forall₂_eq_eq_eq] at heq
    exact heq.symm
  · intro candle hmem
    rw [← hpayload, List.mem_map] at hmem
    obtain ⟨entry, hentry, rfl⟩ := hmem
    obtain ⟨parsed, -, -, hseries⟩ := exists_of_mem_forall₂_left hread hentry
    exact hseries

theorem mergeTradeCandle_eq_ok {current : Option (List Candle)} {merged : List Candle}
    (h : mergeTradeCandle current incoming capacity = .ok merged) :
    merged = newest capacity (series Candle.openTime (current.getD [] ++ [incoming])) := by
  unfold mergeTradeCandle at h
  split at h
  · cases h
  · dsimp only at h
    split at h
    · cases h
    · exact (Except.ok.inj h).symm

theorem mergeTradeCandleHistory_of_series {pages : List (List Candle)}
    (hcapacity : 1 ≤ capacity) (h : ∀ candle ∈ pages.flatten, OfSeries expected candle) :
    mergeTradeCandleHistory pages capacity =
      .ok (newest capacity (series Candle.openTime pages.flatten)) := by
  unfold mergeTradeCandleHistory
  rw [if_neg (Nat.not_lt.mpr hcapacity)]
  cases hflatten : pages.flatten with
  | nil => simp [series, collect, newest]
  | cons first rest =>
    rw [hflatten] at h
    have hfirst := h first List.mem_cons_self
    have hsame : ¬ (rest.any fun candle =>
        candle.symbol ≠ first.symbol || candle.interval ≠ first.interval) = true := by
      rw [List.any_eq_true]
      rintro ⟨candle, hmem, hdiffers⟩
      have hcandle := h candle (List.mem_cons_of_mem first hmem)
      simp [hcandle.1, hcandle.2, hfirst.1, hfirst.2] at hdiffers
    dsimp only
    rw [if_neg hsame]

theorem one_le_capacity (interval : TradeChartInterval) :
    1 ≤ tradeChartCandleCapacity interval := Nat.le_add_left 1 _

/-! ### Every step keeps it -/

theorem Reaches.mono {later : TradeCandleData} {low : ℕ} (h : data.Reaches low)
    (holder : ∀ openTime, Has data.older openTime → Has later.older openTime)
    (hlive : ∀ live ∈ data.liveCandles, Has later.liveCandles live.openTime)
    (hreceived : ∀ candle ∈ later.received, candle ∈ data.received ∨
      Has later.older candle.openTime ∨ Has later.liveCandles candle.openTime) :
    later.Reaches low := by
  intro candle hmem hlow
  rcases hreceived candle hmem with hold | hold | ⟨live, hmem, hlive⟩
  · rcases h candle hold hlow with hpage | ⟨live, hmem, hle⟩
    · exact .inl (holder _ hpage)
    · obtain ⟨other, hother, hsame⟩ := hlive live hmem
      exact .inr ⟨other, hother, hsame.trans_le hle⟩
  · exact .inl hold
  · exact .inr ⟨live, hmem, hlive.le⟩

theorem Whole.mem_received (h : data.Whole expected)
    (hmem : candle ∈ data.liveCandles) : candle ∈ data.received :=
  mem_of_latest (h.liveLatest candle hmem)

theorem latest_append_of_not_has (h : ¬ Has candles openTime) :
    latest Candle.openTime (received ++ candles) openTime =
      latest Candle.openTime received openTime := by
  have hnone : latest Candle.openTime candles openTime = none :=
    latest_eq_none.mpr fun candle hmem hsame => h ⟨candle, hmem, hsame⟩
  rw [latest_append, hnone, Option.none_or]

theorem latest_append_of_mem (hordered : candles.Pairwise fun a b => a.openTime < b.openTime)
    (hmem : candle ∈ candles) :
    latest Candle.openTime (received ++ candles) candle.openTime = some candle := by
  rw [latest_append, latest_of_mem hordered hmem, Option.some_or]

theorem Whole.snapshot (h : data.Whole expected)
    (hanswer : Answers data.received (tradeCandleRange expected.interval now) payload)
    (hnow : ∀ candle ∈ data.received, candle.openTime ≤ now)
    (hstart : data.older ≠ [] → ∀ candle ∈ data.liveCandles,
      (tradeCandleRange expected.interval now).1 ≤ candle.openTime)
    (hseries : ∀ candle ∈ payload, OfSeries expected candle) :
    ({ data with live := some payload, received := data.received ++ payload } :
      TradeCandleData).Whole expected := by
  have hanswered : ∀ candle ∈ data.received,
      (tradeCandleRange expected.interval now).1 ≤ candle.openTime →
        Has payload candle.openTime := fun candle hmem hlow =>
    hanswer.complete candle hmem hlow (hnow candle hmem)
  have hkept : data.older ≠ [] → ∀ live ∈ data.liveCandles, Has payload live.openTime :=
    fun holder live hmem => hanswered live (h.mem_received hmem) (hstart holder live hmem)
  constructor
  · rfl
  · intro candle hmem
    rcases List.mem_append.mp hmem with hold | hnew
    · exact h.ofSeries candle hold
    · exact hseries candle hnew
  · exact hanswer.ordered
  · intro candle hmem
    exact latest_append_of_mem hanswer.ordered hmem
  · rintro candle hmem ⟨live, hlive, hle⟩
    rcases List.mem_append.mp hmem with hold | hnew
    · exact hanswered candle hold ((hanswer.within live hlive).1.trans hle)
    · exact ⟨candle, hnew, rfl⟩
  · intro candle hmem
    exact List.mem_append_left _ (h.olderReceived candle hmem)
  · intro candle hmem hnot
    have hbefore : ¬ Has data.liveCandles candle.openTime := by
      rintro ⟨live, hlive, hsame⟩
      exact hnot (hsame ▸ hkept (List.ne_nil_of_mem hmem) live hlive)
    exact (latest_append_of_not_has hnot).trans (h.olderLatest candle hmem hbefore)
  · exact h.oldest
  · intro hnonempty
    obtain ⟨low, hle, hlow⟩ := h.reaches hnonempty
    refine ⟨low, hle, hlow.mono (fun _ hpage => hpage) (hkept hnonempty) ?_⟩
    intro candle hmem
    rcases List.mem_append.mp hmem with hold | hnew
    · exact .inl hold
    · exact .inr (.inr ⟨candle, hnew, rfl⟩)
  · exact h.fetching

/-! An update merges one candle into the live ones. -/

theorem mem_series_append (hordered : live.Pairwise fun a b => a.openTime < b.openTime) :
    candle ∈ series Candle.openTime (live ++ [incoming]) ↔
      candle = incoming ∨ candle ∈ live ∧ candle.openTime ≠ incoming.openTime := by
  rw [mem_series, latest_append_singleton]
  by_cases hsame : incoming.openTime = candle.openTime
  · rw [if_pos hsame, Option.some.injEq]
    simp [hsame, eq_comm]
  · rw [if_neg hsame]
    have hne : candle ≠ incoming := fun heq => hsame (heq ▸ rfl)
    constructor
    · intro hlatest
      exact .inr ⟨mem_of_latest hlatest, Ne.symm hsame⟩
    · rintro (heq | ⟨hmem, -⟩)
      · exact absurd heq hne
      · exact latest_of_mem hordered hmem

theorem has_series_append (hordered : live.Pairwise fun a b => a.openTime < b.openTime) :
    Has (series Candle.openTime (live ++ [incoming])) openTime ↔
      incoming.openTime = openTime ∨ Has live openTime := by
  constructor
  · rintro ⟨candle, hmem, rfl⟩
    rcases (mem_series_append hordered).mp hmem with rfl | ⟨hlive, -⟩
    · exact .inl rfl
    · exact .inr ⟨candle, hlive, rfl⟩
  · intro h
    by_cases hincoming : incoming.openTime = openTime
    · exact ⟨incoming, (mem_series_append hordered).mpr (.inl rfl), hincoming⟩
    · obtain ⟨candle, hmem, rfl⟩ := h.resolve_left hincoming
      exact ⟨candle, (mem_series_append hordered).mpr (.inr ⟨hmem, Ne.symm hincoming⟩), rfl⟩

theorem length_series_append_le (hordered : live.Pairwise
    fun a b => a.openTime < b.openTime) (incoming : Candle) :
    (series Candle.openTime (live ++ [incoming])).length ≤
      (live.filter fun other => other.openTime ≠ incoming.openTime).length + 1 := by
  have hnodup : (series Candle.openTime (live ++ [incoming])).Nodup := by
    refine (pairwise_series _).imp ?_
    rintro older newer hlt rfl
    exact lt_irrefl _ hlt
  have hsubset : series Candle.openTime (live ++ [incoming]) ⊆
      incoming :: live.filter fun other => other.openTime ≠ incoming.openTime := by
    intro candle hmem
    rcases (mem_series_append hordered).mp hmem with rfl | ⟨hlive, hne⟩
    · exact List.mem_cons_self
    · exact List.mem_cons_of_mem incoming (List.mem_filter.mpr ⟨hlive, decide_eq_true hne⟩)
  exact (List.subperm_of_subset hnodup hsubset).length_le

theorem Whole.update (h : data.Whole expected)
    (hnewer : ∀ other ∈ data.received, candle.openTime < other.openTime →
      Has data.liveCandles other.openTime)
    (hroom : data.older ≠ [] →
      (data.liveCandles.filter fun other => other.openTime ≠ candle.openTime).length + 1 ≤
        tradeChartCandleCapacity expected.interval)
    (hseries : OfSeries expected candle)
    (hlive : live = newest (tradeChartCandleCapacity expected.interval)
      (series Candle.openTime (data.liveCandles ++ [candle]))) :
    ({ data with live := some live, received := data.received ++ [candle] } :
      TradeCandleData).Whole expected := by
  have hstays : ∀ {stayed other : Candle}, stayed ∈ live →
      other ∈ series Candle.openTime (data.liveCandles ++ [candle]) →
      stayed.openTime ≤ other.openTime → other ∈ live := by
    intro stayed other hstayed hother hle
    rw [hlive] at hstayed ⊢
    exact mem_newest_of_le (pairwise_series _) hstayed hother hle
  have hmem : ∀ other ∈ live, other = candle ∨
      other ∈ data.liveCandles ∧ other.openTime ≠ candle.openTime := by
    intro other hother
    rw [hlive] at hother
    exact (mem_series_append h.ordered).mp ((newest_sublist _ _).subset hother)
  have hall : data.older ≠ [] →
      live = series Candle.openTime (data.liveCandles ++ [candle]) := by
    intro holder
    rw [hlive]
    exact newest_of_le ((length_series_append_le h.ordered candle).trans (hroom holder))
  have hkept : data.older ≠ [] → ∀ openTime, candle.openTime = openTime ∨
      Has data.liveCandles openTime → Has live openTime := by
    intro holder openTime hhas
    rw [hall holder]
    exact (has_series_append h.ordered).mpr hhas
  constructor
  · rfl
  · intro other hother
    rcases List.mem_append.mp hother with hold | hnew
    · exact h.ofSeries other hold
    · rw [List.mem_singleton.mp hnew]
      exact hseries
  · change live.Pairwise _
    rw [hlive]
    exact (pairwise_series _).sublist (newest_sublist _ _)
  · intro other hother
    change latest Candle.openTime (data.received ++ [candle]) other.openTime = some other
    rw [latest_append_singleton]
    rcases hmem other hother with rfl | ⟨hold, hne⟩
    · rw [if_pos rfl]
    · rw [if_neg (Ne.symm hne)]
      exact h.liveLatest other hold
  · rintro other hother ⟨stayed, hstayed, hle⟩
    -- what is not older than a candle that stayed is live, or is the update
    have hlives : candle.openTime = other.openTime ∨
        Has data.liveCandles other.openTime := by
      rcases List.mem_append.mp hother with hold | hnew
      · rcases hmem stayed hstayed with rfl | ⟨hbefore, -⟩
        · rcases Nat.eq_or_lt_of_le hle with hsame | hlt
          · exact .inl hsame
          · exact .inr (hnewer other hold hlt)
        · exact .inr (h.liveWhole other hold ⟨stayed, hbefore, hle⟩)
      · rw [List.mem_singleton.mp hnew]
        exact .inl rfl
    obtain ⟨found, hfound, hsame⟩ := (has_series_append h.ordered).mpr hlives
    exact ⟨found, hstays hstayed hfound (hle.trans hsame.ge), hsame⟩
  · intro other hother
    exact List.mem_append_left _ (h.olderReceived other hother)
  · intro other hother hnot
    have holder : data.older ≠ [] := List.ne_nil_of_mem hother
    have hne : candle.openTime ≠ other.openTime := fun hsame =>
      hnot (hkept holder _ (.inl hsame))
    change latest Candle.openTime (data.received ++ [candle]) other.openTime = some other
    rw [latest_append_singleton, if_neg hne]
    exact h.olderLatest other hother fun hbefore => hnot (hkept holder _ (.inr hbefore))
  · exact h.oldest
  · intro hnonempty
    obtain ⟨low, hle, hlow⟩ := h.reaches hnonempty
    refine ⟨low, hle, hlow.mono (fun _ hpage => hpage)
      (fun other hother => hkept hnonempty _ (.inr ⟨other, hother, rfl⟩)) ?_⟩
    intro other hother
    rcases List.mem_append.mp hother with hold | hnew
    · exact .inl hold
    · rw [List.mem_singleton.mp hnew]
      exact .inr (.inr (hkept hnonempty _ (.inl rfl)))
  · exact h.fetching

theorem newest_series_of_drops (hordered : live.Pairwise fun a b => a.openTime < b.openTime)
    (hbefore : ∀ other ∈ live, incoming.openTime < other.openTime) :
    newest live.length (series Candle.openTime (live ++ [incoming])) = live := by
  have hirrefl : Std.Irrefl fun a b : Candle => a.openTime < b.openTime :=
    ⟨fun candle => lt_irrefl candle.openTime⟩
  have hasymm : Std.Asymm fun a b : Candle => a.openTime < b.openTime :=
    ⟨fun _ _ => lt_asymm⟩
  have hseries : series Candle.openTime (live ++ [incoming]) = incoming :: live := by
    apply List.Pairwise.eq_of_mem_iff (pairwise_series _)
      (List.pairwise_cons.mpr ⟨hbefore, hordered⟩)
    intro candle
    rw [mem_series_append hordered, List.mem_cons]
    have hne : candle ∈ live → candle.openTime ≠ incoming.openTime := fun hmem =>
      (hbefore candle hmem).ne'
    tauto
  unfold newest
  rw [hseries, List.length_cons, Nat.add_sub_cancel_left, List.drop_one, List.tail_cons]

/-- The live candles stay, and the update is older than all that is shown. -/
theorem Whole.droppedUpdate (h : data.Whole expected) (hseries : OfSeries expected candle)
    (hlive : ∀ live ∈ data.liveCandles, candle.openTime < live.openTime)
    (holder : ∀ other ∈ data.older, candle.openTime < other.openTime) :
    ({ data with live := some data.liveCandles, received := data.received ++ [candle] } :
      TradeCandleData).Whole expected := by
  have hlatest : ∀ {other : Candle}, candle.openTime < other.openTime →
      latest Candle.openTime (data.received ++ [candle]) other.openTime =
        latest Candle.openTime data.received other.openTime := by
    intro other hlt
    rw [latest_append_singleton, if_neg hlt.ne]
  constructor
  · rfl
  · intro other hother
    rcases List.mem_append.mp hother with hold | hnew
    · exact h.ofSeries other hold
    · rw [List.mem_singleton.mp hnew]
      exact hseries
  · exact h.ordered
  · intro other hother
    exact (hlatest (hlive other hother)).trans (h.liveLatest other hother)
  · rintro other hother ⟨live, hmem, hle⟩
    rcases List.mem_append.mp hother with hold | hnew
    · exact h.liveWhole other hold ⟨live, hmem, hle⟩
    · rw [List.mem_singleton.mp hnew] at hle
      exact absurd (hlive live hmem) (Nat.not_lt.mpr hle)
  · intro other hother
    exact List.mem_append_left _ (h.olderReceived other hother)
  · intro other hother hnot
    exact (hlatest (holder other hother)).trans (h.olderLatest other hother hnot)
  · exact h.oldest
  · intro hnonempty
    obtain ⟨low, hle, hlow⟩ := h.reaches hnonempty
    refine ⟨max low (candle.openTime + 1), fun other hother =>
      max_le (hle other hother) (holder other hother), ?_⟩
    intro other hother hmax
    rcases List.mem_append.mp hother with hold | hnew
    · exact hlow other hold ((le_max_left _ _).trans hmax)
    · rw [List.mem_singleton.mp hnew] at hmax
      exact absurd ((le_max_right _ _).trans hmax) (Nat.not_succ_le_self _)
  · exact h.fetching

/-! A page reaches from the end it was fetched for. -/

theorem liveCandles_of_live (h : data.live = some candles) : data.liveCandles = candles := by
  unfold liveCandles
  rw [h, Option.getD_some]

theorem previousCandlePageEnd_eq_some {page : List Candle} {endTime : ℕ}
    (h : previousCandlePageEnd page = some endTime) :
    ∃ first ∈ page.head?, first.openTime = endTime + 1 := by
  unfold previousCandlePageEnd at h
  cases hhead : page.head? with
  | none =>
    rw [hhead] at h
    cases h
  | some first =>
    rw [hhead] at h
    dsimp only at h
    split at h
    · cases h
    · rename_i hpositive
      refine ⟨first, rfl, ?_⟩
      have hend := Option.some.inj h
      omega

theorem Whole.fetchOlder (h : data.Whole expected) (now : ℕ) :
    (data.fetchOlder now).Whole expected := by
  unfold TradeCandleData.fetchOlder
  split
  · exact h
  · cases hparam : data.nextPageParam now with
    | none => exact h
    | some endTime =>
      refine ⟨h.live, h.ofSeries, h.ordered, h.liveLatest, h.liveWhole, h.olderReceived,
        h.olderLatest, h.oldest, h.reaches, ?_⟩
      intro fetched hfetched candle hmem
      obtain rfl := Option.some.inj hfetched
      unfold nextPageParam at hparam
      cases hlast : data.pages.getLast? with
      | none =>
        have hpages : data.pages = [] := List.getLast?_eq_none_iff.mp hlast
        have holder : data.older = [] := by simp [older, hpages]
        have hnone : candle ∈ data.older := hmem
        rw [holder] at hnone
        cases hnone
      | some page =>
        rw [hlast] at hparam
        obtain ⟨first, hfirst, hopens⟩ := previousCandlePageEnd_eq_some hparam
        have hle := h.oldest page hlast first hfirst candle hmem
        omega

/-- A page without candles is the last one: none is before its start. -/
theorem Whole.settled_nil (h : data.Whole expected) :
    ({ data with pages := data.pages ++ [[]], fetching := none } :
      TradeCandleData).Whole expected := by
  have holder : ({ data with pages := data.pages ++ [[]], fetching := none } :
      TradeCandleData).older = data.older := by
    simp [older]
  refine ⟨h.live, h.ofSeries, h.ordered, h.liveLatest, h.liveWhole, ?_, ?_, ?_, ?_,
    fun _ hnone => by cases hnone⟩
  · rw [holder]
    exact h.olderReceived
  · rw [holder]
    exact h.olderLatest
  · intro page hpage first hfirst
    have hempty : page = [] := by simpa using hpage.symm
    rw [hempty] at hfirst
    cases hfirst
  · unfold Reaches
    rw [holder]
    exact h.reaches

/-- A page that reaches the held candles, and none of the live ones, leaves the series whole. -/
theorem Whole.settled (h : data.Whole expected) {endTime : ℕ} {page : List Candle}
    (hfetching : data.fetching = some endTime)
    (hanswer : Answers data.received (tradeCandleRange expected.interval endTime) page)
    (hend : data.Reaches (endTime + 1))
    (hbefore : ∀ live ∈ data.liveCandles, endTime < live.openTime)
    (hseries : ∀ candle ∈ page, OfSeries expected candle) :
    ({ data with
        pages := data.pages ++ [page]
        fetching := none
        received := data.received ++ page } : TradeCandleData).Whole expected := by
  have hafter := h.fetching endTime hfetching
  have holder : ({ data with
      pages := data.pages ++ [page]
      fetching := none
      received := data.received ++ page } : TradeCandleData).older = data.older ++ page := by
    simp [older]
  have hpage : ∀ candle ∈ page, candle.openTime ≤ endTime := fun candle hmem =>
    (hanswer.within candle hmem).2
  have hdistinct : ∀ {openTime : ℕ}, endTime < openTime → ¬ Has page openTime := by
    rintro openTime hlt ⟨candle, hmem, rfl⟩
    exact absurd (hpage candle hmem) (Nat.not_le.mpr hlt)
  refine ⟨h.live, ?_, h.ordered, ?_, ?_, ?_, ?_, ?_, ?_, fun _ hnone => by cases hnone⟩
  · intro candle hmem
    rcases List.mem_append.mp hmem with hold | hnew
    · exact h.ofSeries candle hold
    · exact hseries candle hnew
  · intro candle hmem
    exact (latest_append_of_not_has (hdistinct (hbefore candle hmem))).trans
      (h.liveLatest candle hmem)
  · rintro candle hmem ⟨live, hlive, hle⟩
    rcases List.mem_append.mp hmem with hold | hnew
    · exact h.liveWhole candle hold ⟨live, hlive, hle⟩
    · exact absurd ((hbefore live hlive).trans_le hle) (Nat.not_lt.mpr (hpage candle hnew))
  · rw [holder]
    intro candle hmem
    rcases List.mem_append.mp hmem with hold | hnew
    · exact List.mem_append_left _ (h.olderReceived candle hold)
    · exact List.mem_append_right _ hnew
  · rw [holder]
    intro candle hmem hnot
    rcases List.mem_append.mp hmem with hold | hnew
    · exact (latest_append_of_not_has (hdistinct (hafter candle hold))).trans
        (h.olderLatest candle hold hnot)
    · exact latest_append_of_mem hanswer.ordered hnew
  · rw [holder]
    intro last hlast first hfirst candle hmem
    have hsame : page = last := by simpa using hlast
    subst hsame
    have hfirstEnd := hpage first (List.mem_of_head? hfirst)
    rcases List.mem_append.mp hmem with hold | hnew
    · exact hfirstEnd.trans (hafter candle hold).le
    · cases page with
      | nil => cases hnew
      | cons head rest =>
        obtain rfl := Option.some.inj hfirst
        rcases List.mem_cons.mp hnew with rfl | hrest
        · exact le_rfl
        · exact ((List.pairwise_cons.mp hanswer.ordered).1 candle hrest).le
  · intro _
    refine ⟨(tradeCandleRange expected.interval endTime).1, ?_, ?_⟩
    · rw [holder]
      intro candle hmem
      rcases List.mem_append.mp hmem with hold | hnew
      · exact (Nat.sub_le _ _).trans (hafter candle hold).le
      · exact (hanswer.within candle hnew).1
    · intro candle hmem hlow
      rw [holder]
      rcases List.mem_append.mp hmem with hold | hnew
      · by_cases hle : candle.openTime ≤ endTime
        · obtain ⟨answered, hanswered, hsame⟩ := hanswer.complete candle hold hlow hle
          exact .inl ⟨answered, List.mem_append_right _ hanswered, hsame⟩
        · rcases hend candle hold (Nat.lt_of_not_le hle) with ⟨found, hfound, hsame⟩ | hlive
          · exact .inl ⟨found, List.mem_append_left _ hfound, hsame⟩
          · exact .inr hlive
      · exact .inl ⟨candle, List.mem_append_right _ hnew, rfl⟩

/-- A step that keeps the series, on an answer in order, leaves it whole. -/
theorem Whole.step (h : data.Whole expected) {event : CandleEvent}
    (hanswered : data.Answered expected event) (hkeeps : data.Keeps expected event) :
    (data.step expected event).Whole expected := by
  cases event with
  | snapshot now payload =>
    unfold TradeCandleData.step
    dsimp only
    cases hparsed : parseCandles expected payload with
    | error error => exact h
    | ok candles =>
      obtain ⟨rfl, hseries⟩ := parseCandles_eq_ok hparsed
      obtain ⟨hnow, hstart⟩ := hkeeps (by rw [hparsed]; rfl)
      exact h.snapshot hanswered hnow hstart hseries
  | update candle =>
    unfold TradeCandleData.step
    dsimp only
    cases hparsed : parseCandles expected [candle] with
    | error error => exact h
    | ok candles =>
      have hseries := (parseCandles_eq_ok hparsed).2 candle (List.mem_singleton_self candle)
      dsimp only
      cases hmerged : mergeTradeCandle data.live candle
        (tradeChartCandleCapacity expected.interval) with
      | error error => exact h
      | ok live =>
        have hlive := mergeTradeCandle_eq_ok hmerged
        rcases hkeeps (by rw [hparsed]; rfl) with ⟨⟨hfull, hbefore⟩, holder⟩ | ⟨hnewer, hroom⟩
        · have hsame : live = data.liveCandles := by
            rw [hlive, ← hfull]
            exact newest_series_of_drops h.ordered hbefore
          rw [hsame]
          exact h.droppedUpdate hseries hbefore holder
        · exact h.update hnewer hroom hseries hlive
  | fetchOlder now => exact h.fetchOlder now
  | settled payload =>
    unfold TradeCandleData.step
    dsimp only
    cases hfetching : data.fetching with
    | none => exact h
    | some endTime =>
      have hfailed : ({ data with fetching := none } : TradeCandleData).Whole expected :=
        ⟨h.live, h.ofSeries, h.ordered, h.liveLatest, h.liveWhole, h.olderReceived,
          h.olderLatest, h.oldest, h.reaches, fun _ hnone => by cases hnone⟩
      cases payload with
      | none => exact hfailed
      | some payload =>
        dsimp only [Option.map_some]
        cases hparsed : parseCandles expected payload with
        | error error => exact hfailed
        | ok page =>
          obtain ⟨rfl, hseries⟩ := parseCandles_eq_ok hparsed
          cases page with
          | nil => simpa only [List.append_nil] using h.settled_nil
          | cons first rest =>
            obtain ⟨hend, hbefore⟩ := hkeeps (by rw [hparsed]; rfl)
              (List.cons_ne_nil first rest) endTime hfetching
            exact h.settled hfetching (hanswered endTime hfetching) hend hbefore hseries

/-! ### What is shown -/

theorem Whole.combined (h : data.Whole expected) :
    data.combined expected.interval = some (.ok (newest
      (tradeChartCandleCapacity expected.interval * (tradeCandleHistoryMaxPages + 1))
      (series Candle.openTime (data.older ++ data.liveCandles)))) := by
  obtain ⟨candles, hlive⟩ := Option.isSome_iff_exists.mp h.live
  have hflatten : (data.pages ++ data.live.toList).flatten = data.older ++ data.liveCandles := by
    rw [liveCandles_of_live hlive, hlive]
    simp [older]
  have hseries : ∀ candle ∈ (data.pages ++ data.live.toList).flatten,
      OfSeries expected candle := by
    rw [hflatten]
    intro candle hmem
    rcases List.mem_append.mp hmem with hpage | hlive
    · exact h.ofSeries candle (h.olderReceived candle hpage)
    · exact h.ofSeries candle (h.mem_received hlive)
  have hcapacity : 1 ≤
      tradeChartCandleCapacity expected.interval * (tradeCandleHistoryMaxPages + 1) :=
    Nat.mul_pos (one_le_capacity expected.interval) (Nat.succ_pos _)
  have hsome : ¬ (data.live = none ∧ data.pages = []) := by
    rintro ⟨hnone, -⟩
    rw [hlive] at hnone
    cases hnone
  unfold TradeCandleData.combined
  rw [if_neg hsome, mergeTradeCandleHistory_of_series hcapacity hseries, hflatten]

theorem Whole.latest_of_mem_series (h : data.Whole expected)
    (hmem : candle ∈ series Candle.openTime (data.older ++ data.liveCandles)) :
    latest Candle.openTime data.received candle.openTime = some candle := by
  rw [mem_series] at hmem
  by_cases hlive : Has data.liveCandles candle.openTime
  · obtain ⟨live, hlive, hsame⟩ := hlive
    rw [← hsame, latest_append_of_mem h.ordered hlive] at hmem
    rw [← Option.some.inj hmem]
    exact h.liveLatest live hlive
  · rw [latest_append_of_not_has hlive] at hmem
    exact h.olderLatest candle (mem_of_latest hmem) hlive

theorem Whole.has_series (h : data.Whole expected) {first : Candle}
    (hfirst : first ∈ series Candle.openTime (data.older ++ data.liveCandles))
    (hmem : candle ∈ data.received) (hle : first.openTime ≤ candle.openTime) :
    Has (series Candle.openTime (data.older ++ data.liveCandles)) candle.openTime := by
  have hfound : ∃ found ∈ data.older ++ data.liveCandles,
      found.openTime = candle.openTime := by
    have hlives : (∃ live ∈ data.liveCandles, live.openTime ≤ candle.openTime) →
        ∃ found ∈ data.older ++ data.liveCandles, found.openTime = candle.openTime := by
      intro hlive
      obtain ⟨found, hfound, hsame⟩ := h.liveWhole candle hmem hlive
      exact ⟨found, List.mem_append_right _ hfound, hsame⟩
    rcases List.mem_append.mp (mem_of_latest (mem_series.mp hfirst)) with hpage | hlive
    · obtain ⟨low, hlow, hreaches⟩ := h.reaches (List.ne_nil_of_mem hpage)
      rcases hreaches candle hmem ((hlow first hpage).trans hle) with hold | hlive
      · obtain ⟨found, hfound, hsame⟩ := hold
        exact ⟨found, List.mem_append_left _ hfound, hsame⟩
      · exact hlives hlive
    · exact hlives ⟨first, hlive, hle⟩
  obtain ⟨found, hfound, hsame⟩ := hfound
  obtain ⟨last, hlast⟩ := exists_latest Candle.openTime hfound
  have hkey := key_of_latest hlast
  exact ⟨last, mem_series.mpr (hkey ▸ hlast), hkey.trans hsame⟩

/-- A whole series has no hole. -/
theorem Whole.unbroken (h : data.Whole expected) : data.Unbroken expected.interval := by
  refine ⟨_, h.combined, (pairwise_series _).sublist (newest_sublist _ _), ?_, ?_⟩
  · intro candle hmem
    exact h.latest_of_mem_series ((newest_sublist _ _).subset hmem)
  · intro first hfirst last hlast candle hmem hle _
    have hshown := List.mem_of_head? hfirst
    obtain ⟨found, hfound, hsame⟩ :=
      h.has_series ((newest_sublist _ _).subset hshown) hmem hle
    exact ⟨found, mem_newest_of_le (pairwise_series _) hshown hfound (hle.trans hsame.ge), hsame⟩

theorem whole_first (hparsed : parseCandles expected payload = .ok candles)
    (hanswer : Answers [] (tradeCandleRange expected.interval now) payload) :
    (initial.step expected (.snapshot now payload)).Whole expected := by
  obtain ⟨rfl, hseries⟩ := parseCandles_eq_ok hparsed
  have hstep : initial.step expected (.snapshot now candles) =
      ⟨some candles, [], none, candles⟩ := by
    simp [TradeCandleData.step, hparsed, initial]
  rw [hstep]
  refine ⟨rfl, hseries, hanswer.ordered, ?_, ?_, ?_, ?_, ?_, ?_, fun _ hnone => by cases hnone⟩
  · intro candle hmem
    exact latest_of_mem hanswer.ordered hmem
  · intro candle hmem _
    exact ⟨candle, hmem, rfl⟩
  · intro candle hmem
    cases hmem
  · intro candle hmem
    cases hmem
  · intro page hpage
    cases hpage
  · intro hnonempty
    exact absurd rfl hnonempty

end TradeCandleData

open TradeCandleData

/-- **Chart history has no holes while nothing leaves the live candles.** Let the exchange
answer every range it is asked for with every candle of it. In every run that starts from a
snapshot, in which no candle leaves the live ones while an older candle is shown and a page
arrives only next to what was received after its end, what is shown is strictly increasing
and the latest received of every candle, and no candle received is missing between the
first and the last shown. -/
theorem chart_history_unbroken (expected : TradeCandleSeries) {now : ℕ}
    {payload candles : List Candle} (hparsed : parseCandles expected payload = .ok candles)
    (hanswer : Answers [] (tradeCandleRange expected.interval now) payload)
    (events : List CandleEvent)
    (hanswered : Along (TradeCandleData.step expected) (Answered expected)
      (initial.step expected (.snapshot now payload)) events)
    (hkeeps : Along (TradeCandleData.step expected) (Keeps expected)
      (initial.step expected (.snapshot now payload)) events) :
    (run (TradeCandleData.step expected) (initial.step expected (.snapshot now payload))
      events).Unbroken expected.interval := by
  have hwhole : (run (TradeCandleData.step expected)
      (initial.step expected (.snapshot now payload)) events).Whole expected :=
    run_invariant_along (fun _ _ h hstep => h.step hstep.1 hstep.2)
      (whole_first hparsed hanswer) (along_and.mpr ⟨hanswered, hkeeps⟩)
  exact hwhole.unbroken

def minuteCandle (minute : ℕ) (price : String) : Candle :=
  ⟨minute * 60000, minute * 60000 + 59999, "BTC", .m1, price, price, price, price, "1", 1⟩

theorem chart_history_unbroken_minute :
    (run (TradeCandleData.step ⟨"BTC", .m1⟩)
      (initial.step ⟨"BTC", .m1⟩ (.snapshot 12000000 [minuteCandle 200 "10"]))
      [.fetchOlder 12000000, .settled (some [minuteCandle 150 "9"]),
        .update (minuteCandle 200 "11"), .update (minuteCandle 201 "12"),
        .snapshot 12060000 [minuteCandle 150 "9", minuteCandle 200 "11",
          minuteCandle 201 "12"]]).Unbroken .m1 := by
  have hparsed : parseCandles ⟨"BTC", .m1⟩ [minuteCandle 200 "10"] =
      .ok [minuteCandle 200 "10"] := by
    decide
  exact chart_history_unbroken ⟨"BTC", .m1⟩ hparsed (by decide) _ (by decide)
    (by decide)

/-- A live candle that is outside the window of a reconnect is lost between the older page
that was fetched before it and the candles of the new snapshot. -/
theorem reconnect_opens_hole :
    let events := [.fetchOlder 12000000, .settled (some [minuteCandle 150 "9"]),
      .snapshot 18000000 [minuteCandle 300 "13"]]
    let start := initial.step ⟨"BTC", .m1⟩ (.snapshot 12000000 [minuteCandle 200 "10"])
    Answers [] (tradeCandleRange .m1 12000000) [minuteCandle 200 "10"] ∧
      Along (TradeCandleData.step ⟨"BTC", .m1⟩) (Answered ⟨"BTC", .m1⟩) start events ∧
      ¬ (run (TradeCandleData.step ⟨"BTC", .m1⟩) start events).Unbroken .m1 := by
  intro events start
  refine ⟨by decide, by decide, ?_⟩
  rintro ⟨shown, hshown, -, -, hwhole⟩
  have hcombined : (run (TradeCandleData.step ⟨"BTC", .m1⟩) start events).combined .m1 =
      some (.ok [minuteCandle 150 "9", minuteCandle 300 "13"]) := by
    decide
  rw [hcombined] at hshown
  obtain rfl := Except.ok.inj (Option.some.inj hshown)
  have hmissing := hwhole (minuteCandle 150 "9") rfl (minuteCandle 300 "13") rfl
    (minuteCandle 200 "10") (by decide) (by decide) (by decide)
  exact absurd hmissing (by decide)

end HyperTrader
